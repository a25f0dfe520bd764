import Rollout.Storage.Notify

/-!
# Watching a prefix

* `WatchRouter` — the embedded storage's channels, one for each prefix somebody subscribed to, as
  the events sent on them. `WatchRouter.publish` sends to every channel whose prefix matches.
* `watched` — what a listener on a prefix is told by the Postgres storage of a change of a key.
* `watch_scan_agree_iff` — for each backend, when a watcher of a prefix is told of the key exactly
  if a scan of the prefix lists it. A prefix without a run is a wildcard for the embedded scan and
  the Postgres listener, but not for the embedded router and the Postgres scan.
-/

set_option linter.unusedSectionVars false

namespace Rollout.Backends

open Rollout.Lib Rollout.Core

/-! ## The embedded storage -/

/-- Whether a subscriber of a prefix is told of a key; a prefix without a run is not a wildcard.
Source: `rollout-storage/src/embedded/watch.rs` `prefix_matches`. Kind: D -/
def prefixMatches (pfx candidate : StorageKey) : Bool :=
  decide (pfx.ns = candidate.ns) && decide (pfx.runId = candidate.runId) &&
    pfx.path.isPrefixOf candidate.path

/-- The channels by prefix, as the events sent on each.
Source: `rollout-storage/src/embedded/watch.rs` `WatchRouter`. Kind: D -/
structure WatchRouter where
  /-- The events sent on the channel of a prefix. -/
  channels : StorageKey → Option (List StorageEvent)

/-- A subscriber: its prefix and how many events its channel had carried.
Source: `rollout-storage/src/embedded/watch.rs` `subscribe` (`broadcast::Receiver`). Kind: D -/
structure Receiver where
  /-- The prefix. -/
  pfx : StorageKey
  /-- The events it missed. -/
  missed : Nat

namespace WatchRouter

/-- No channels. Source: `rollout-storage/src/embedded/watch.rs` `WatchRouter` (`Default`).
Kind: D -/
def empty : WatchRouter := ⟨fun _ => none⟩

/-- Subscribe to a prefix, opening its channel for the first one.
Source: `rollout-storage/src/embedded/watch.rs` `subscribe`. Kind: D -/
def subscribe (pfx : StorageKey) (w : WatchRouter) : Receiver × WatchRouter :=
  let sent := (w.channels pfx).getD []
  (⟨pfx, sent.length⟩, ⟨Function.update w.channels pfx (some sent)⟩)

/-- Send an event on every channel whose prefix matches its key.
Source: `rollout-storage/src/embedded/watch.rs` `publish`. Kind: D -/
def publish (ev : StorageEvent) (w : WatchRouter) : WatchRouter :=
  ⟨fun pfx => (w.channels pfx).map fun sent =>
    if prefixMatches pfx ev.key then sent ++ [ev] else sent⟩

/-- What a subscriber has received, as long as its channel did not overflow.
Source: `rollout-storage/src/embedded/mod.rs` `watch_stream`. Kind: D -/
def received (w : WatchRouter) (r : Receiver) : List StorageEvent :=
  ((w.channels r.pfx).getD []).drop r.missed

/-- A subscriber: its channel is there and has carried what it missed.
Source: `rollout-storage/src/embedded/watch.rs` `subscribe`. Kind: D -/
def Subscribed (w : WatchRouter) (r : Receiver) : Prop :=
  ∃ sent, w.channels r.pfx = some sent ∧ r.missed ≤ sent.length

theorem subscribed_subscribe (pfx : StorageKey) (w : WatchRouter) :
    (w.subscribe pfx).2.Subscribed (w.subscribe pfx).1 := by
  refine ⟨(w.channels pfx).getD [], ?_, le_rfl⟩
  simp [subscribe]

/-- **What a subscriber receives of an event**: the event, when its prefix matches the key.
Source: `rollout-storage/src/embedded/watch.rs` `publish`. Kind: L -/
theorem received_publish {w : WatchRouter} {r : Receiver} (h : w.Subscribed r) (ev : StorageEvent) :
    (w.publish ev).received r =
      w.received r ++ if prefixMatches r.pfx ev.key then [ev] else [] := by
  obtain ⟨sent, hsent, hle⟩ := h
  simp only [received, publish, hsent, Option.map_some, Option.getD_some]
  split
  · rw [List.drop_append_of_le_length hle]
  · rw [List.append_nil]

theorem Subscribed.publish {w : WatchRouter} {r : Receiver} (h : w.Subscribed r)
    (ev : StorageEvent) : (w.publish ev).Subscribed r := by
  obtain ⟨sent, hsent, hle⟩ := h
  refine ⟨_, congrArg (Option.map _) hsent, le_trans hle ?_⟩
  split
  · simp
  · exact le_rfl

end WatchRouter

theorem prefixMatches_iff {pfx key : StorageKey} :
    prefixMatches pfx key = true ↔
      pfx.ns = key.ns ∧ pfx.runId = key.runId ∧ pfx.path <+: key.path := by
  simp [prefixMatches, List.isPrefixOf_iff_prefix, and_assoc]

theorem keyHasPrefix_iff {pfx key : StorageKey} :
    keyHasPrefix key pfx = true ↔
      pfx.ns = key.ns ∧ (pfx.runId = none ∨ pfx.runId = key.runId) ∧ pfx.path <+: key.path := by
  unfold keyHasPrefix
  rcases pfx.runId with - | r
  · simp only [Bool.true_and, true_or, true_and, ← List.isPrefixOf_iff_prefix]
    grind
  · simp only [← List.isPrefixOf_iff_prefix]
    grind

/-- **On the embedded storage watching and scanning agree exactly when** the prefix has a run, or
the key has none, or the key is outside the prefix anyway.
Source: `rollout-storage/src/embedded/watch.rs` `prefix_matches`. Kind: L -/
theorem embedded_agree_iff (pfx key : StorageKey) :
    (prefixMatches pfx key = true ↔ keyHasPrefix key pfx = true) ↔
      (pfx.ns = key.ns → pfx.path <+: key.path → pfx.runId = none → key.runId = none) := by
  rw [prefixMatches_iff, keyHasPrefix_iff]
  grind

/-! ## The Postgres storage -/

/-- The channel of a namespace. Source: `database/migrations/0001_init.sql` `rollout_kv_notify`,
`rollout-storage/src/postgres/listener.rs` `pg_watch_stream`. Kind: D -/
def watchChannel (ns : String) : String := "rollout_watch_" ++ ns

/-- What a listener on a prefix is told when the row of a key changes.
Source: `rollout-storage/src/postgres/listener.rs` `pg_watch_stream`. Kind: D -/
def watched (pfx key : StorageKey) : Option StorageEvent :=
  if watchChannel key.ns = watchChannel pfx.ns then parsePayload (rolloutKvNotify key) pfx else none

theorem watchChannel_inj {a b : String} : watchChannel a = watchChannel b ↔ a = b := by
  unfold watchChannel
  rw [← String.toList_inj, String.toList_append, String.toList_append, List.append_cancel_left_eq,
    String.toList_inj]

/-- A listener is told of the key. Source: `rollout-storage/src/postgres/listener.rs`
`parse_payload`. Kind: L -/
theorem watched_iff {pfx key : StorageKey} :
    watched pfx key = some (.put key) ↔ Notifiable key ∧ pfx.ns = key.ns ∧
      (pfx.runId = none ∨ pfx.runId = key.runId) ∧ pfx.path <+: key.path := by
  have hkey : ∀ path, StorageEvent.put ⟨pfx.ns, key.runId, path⟩ = .put key ↔
      pfx.ns = key.ns ∧ path = key.path := by
    obtain ⟨ns, runId, path⟩ := key
    simp
  unfold watched
  simp only [watchChannel_inj, parsePayload_rolloutKvNotify, ← notifiedPath_eq_iff,
    ← List.isPrefixOf_iff_prefix]
  rcases pfx.runId with - | r <;> grind

/-- Whether a scan of a prefix lists the row of a key.
Source: `rollout-storage/src/postgres/mod.rs` `scan_bytes`. Kind: D -/
def scanMatches (pfx key : StorageKey) : Prop :=
  PostgresStorage.inRange pfx (rowOf key []) = some true

theorem scanMatches_iff {pfx key : StorageKey} :
    scanMatches pfx key ↔ pfx.ns = key.ns ∧ pfx.runId = key.runId ∧ pfx.path <+: key.path := by
  unfold scanMatches
  rw [PostgresStorage.inRange_iff, rowHasPrefix, ← List.isPrefixOf_iff_prefix]
  grind

/-- **On the Postgres storage watching and scanning agree exactly when**, for a key that extends the
path of the prefix, the prefix has a run or the key has none — or, for a key that no notification
can name, when the runs differ.
Source: `rollout-storage/src/postgres/listener.rs` `parse_payload`. Kind: L -/
theorem postgres_agree_iff (pfx key : StorageKey) :
    (watched pfx key = some (.put key) ↔ scanMatches pfx key) ↔
      (pfx.ns = key.ns → pfx.path <+: key.path →
        if Notifiable key then pfx.runId = none → key.runId = none else pfx.runId ≠ key.runId) := by
  rw [watched_iff, scanMatches_iff]
  grind

/-! ## Both -/

/-- **When watching and scanning use the same prefixes**, for each backend.
Source: `rollout-storage/src/embedded/watch.rs` `prefix_matches`,
`rollout-storage/src/encoding.rs` `key_has_prefix`,
`rollout-storage/src/postgres/listener.rs` `parse_payload`,
`rollout-storage/src/postgres/mod.rs` `scan_bytes`. Kind: P -/
theorem watch_scan_agree_iff (pfx key : StorageKey) :
    ((prefixMatches pfx key = true ↔ keyHasPrefix key pfx = true) ↔
      (pfx.ns = key.ns → pfx.path <+: key.path → pfx.runId = none → key.runId = none)) ∧
    ((watched pfx key = some (.put key) ↔ scanMatches pfx key) ↔
      (pfx.ns = key.ns → pfx.path <+: key.path →
        if Notifiable key then pfx.runId = none → key.runId = none else pfx.runId ≠ key.runId)) :=
  ⟨embedded_agree_iff pfx key, postgres_agree_iff pfx key⟩

/-- A prefix without a run and a key with one: the embedded scan lists the key and its watcher is
told nothing, the Postgres watcher is told of the key and the scan does not list it.
Source: none: infrastructure. Kind: C -/
theorem wildcard_watch_differs :
    ¬ (prefixMatches ⟨"epoch", none, []⟩ runKey = true ↔
        keyHasPrefix runKey ⟨"epoch", none, []⟩ = true) ∧
      ¬ (watched ⟨"epoch", none, []⟩ runKey = some (.put runKey) ↔
        scanMatches ⟨"epoch", none, []⟩ runKey) := by
  have hnotifiable : Notifiable runKey := by
    refine ⟨by decide, by decide, ?_⟩
    have hrun := length_runText_le runKey.runId
    have hpath : (arrayToString runKey.path '/').length = 1 := by decide
    have hbar : "|".length = 1 := rfl
    rw [String.length_toList] at hrun
    rw [kvPayload, String.length_append, String.length_append, hpath, hbar]
    omega
  constructor
  · rw [embedded_agree_iff]
    intro h
    cases h rfl (List.nil_prefix) rfl
  · rw [postgres_agree_iff, if_pos hnotifiable]
    intro h
    cases h rfl (List.nil_prefix) rfl

end Rollout.Backends
