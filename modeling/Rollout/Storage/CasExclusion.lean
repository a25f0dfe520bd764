import Rollout.Storage.Backends

/-!
# Compare-and-swap on Postgres

Any number of transactions swap the same expected value of one key for a value of their own and
commit. When the row exists, reading it for update locks it, and the loser compares against what
the winner committed. When it does not exist there is nothing to lock: every transaction reads no
row, and the upserts then follow one another.

* `cas_exclusive` — one winner, whenever the row exists or a value is expected.
* `cas_both_win` — two winners otherwise; `cas_exclusive_iff` puts the two together.
-/

set_option linter.unusedSectionVars false

namespace Rollout.Backends

open Rollout.Lib Rollout.Core RowLocks

/-- A transaction that swaps one row and commits.
Source: `rollout-storage/src/postgres/mod.rs` `cas_bytes`, `commit`. Kind: D -/
def casTxn (key : StorageKey) (expected new : Option Bytes) : BackendM postgres Bool := do
  begin
  let applied ← StorageTxn.casBytes key expected new
  StorageTxn.commit
  return applied

section race

variable {ι : Type} [DecidableEq ι] (key : StorageKey) (expected : Option Bytes)
  (new : ι → Option Bytes) (s : Rows)

/-- Any number of such transactions. Source: none: infrastructure. Kind: D -/
def race : Config ((requests postgres.toBackend Bytes).iface CoreError) CoreError (Database ι)
    fun _ : ι => Bool :=
  ⟨Db.rest s, fun i => casTxn key expected (new i)⟩

/-- The row is locked by `i` and still holds what is expected. Source: none: infrastructure.
Kind: D -/
def Held (i : ι) (db : Database ι) : Prop :=
  db.holder key = some i ∧ db.committed.get key = expected

/-- The transactions that wrote and committed. Source: none: infrastructure. Kind: D -/
def winners (g : List ι) (e : BackendEvent postgres ι) : List ι :=
  match e with
  | ⟨i, .commit, .ok _, db, _⟩ => if db.writes i = [] then g else i :: g
  | _ => g

/-- **The agreement of the swapping transactions**: as long as nobody has won the row is as it was;
a winner leaves a row that is not the expected one. Source: none: infrastructure. Kind: D -/
structure RaceInv (db : Database ι) (g : List ι) : Prop where
  /-- Written rows are locked. -/
  wf : db.WF
  /-- At most one has won. -/
  one : g.length ≤ 1
  /-- Nobody has won yet. -/
  fresh : g = [] → db.committed.get key = s.get key
  /-- Somebody has won. -/
  won : g ≠ [] → db.committed.get key ≠ expected

/-- What a transaction knows when it commits: it has written nothing, or it has written the row it
holds. Source: none: infrastructure. Kind: D -/
def raceKnows (i : ι) (o : Stmt postgres.toBackend Bytes) (db : Database ι) : Prop :=
  match o with
  | .commit => db.writes i = [] ∨ (Held key expected i db ∧ db.view i key ≠ expected)
  | _ => True

variable {key expected new s}

theorem RaceInv.nil_of_held {i : ι} {db : Database ι} {g : List ι}
    (h : RaceInv key expected s db g) (hheld : Held key expected i db) : g = [] := by
  by_contra hne
  exact h.won hne hheld.2

/-- **The agreement as a discipline.** Source: none: infrastructure. Kind: D -/
def raceDiscipline (key : StorageKey) (expected : Option Bytes) (s : Rows) :
    Discipline (machine postgres ι) (List ι) where
  upd := winners
  inv := RaceInv key expected s
  rely i db g db' g' := Db.Keeps i db db' ∧ g ⊆ g'
  pre i o db _ := raceKnows key expected i o db
  assume _ := True
  rely_refl i db _ := ⟨Db.Keeps.refl i db, fun _ h => h⟩
  rely_trans _ _ _ _ _ _ _ h h' := ⟨h.1.trans h'.1, fun _ hi => h'.2 (h.2 hi)⟩
  step := by
    rintro ⟨i, o, r, db, db'⟩ g hd - hinv hpre
    rcases Service.does_iff.mp hd with ⟨err, rfl, rfl⟩ | ⟨ch, a, hperf, rfl⟩
    · have hg : winners g (⟨i, o, .error err, db, db.rollback i⟩ : BackendEvent postgres ι) = g := by
        cases o <;> rfl
      rw [hg]
      exact ⟨⟨Db.wf_rollback hinv.wf, hinv.one, hinv.fresh, hinv.won⟩,
        fun j hj => ⟨Db.keeps_rollback hj, fun _ h => h⟩⟩
    · have hwf := perform_wf hinv.wf hperf
      have hkeeps : ∀ j, j ≠ i → Db.Keeps j db db' := fun j hj => perform_keeps hinv.wf hperf hj
      by_cases ho : o = .commit
      · subst ho
        obtain ⟨rfl, rfl⟩ := Prod.mk.inj (Option.some.inj hperf)
        rcases hpre with hnil | ⟨hheld, hview⟩
        · have hg : winners g (⟨i, .commit, .ok (), db, db.commit i⟩ : BackendEvent postgres ι) = g :=
            if_pos hnil
          rw [hg]
          have hget : (db.commit i).committed.get key = db.committed.get key :=
            Db.get_commit.trans (Db.view_of_writes_nil hnil)
          exact ⟨⟨hwf, hinv.one, fun h => hget.trans (hinv.fresh h), fun h => hget ▸ hinv.won h⟩,
            fun j hj => ⟨hkeeps j hj, fun _ h => h⟩⟩
        · obtain rfl := hinv.nil_of_held hheld
          have hne : db.writes i ≠ [] := by
            intro hnil
            rw [Db.view_of_writes_nil hnil] at hview
            exact hview hheld.2
          have hg : winners [] (⟨i, .commit, .ok (), db, db.commit i⟩ : BackendEvent postgres ι) =
              [i] := if_neg hne
          rw [hg]
          refine ⟨⟨hwf, le_rfl, fun h => absurd h (List.cons_ne_nil i []), fun _ => ?_⟩,
            fun j hj => ⟨hkeeps j hj, List.nil_subset [i]⟩⟩
          rw [Db.get_commit]
          exact hview
      · have hc : db'.committed = db.committed := committed_of_ne_commit hperf ho
        have hg : winners g (⟨i, o, .ok a, db, db'⟩ : BackendEvent postgres ι) = g := by
          cases o <;> first | rfl | exact absurd rfl ho
        rw [hg]
        exact ⟨⟨hwf, hinv.one, fun h => hc ▸ hinv.fresh h, fun h => hc ▸ hinv.won h⟩,
          fun j hj => ⟨hkeeps j hj, fun _ h => h⟩⟩
  tick t := t.elim

/-- What a finished transaction knows. Source: none: infrastructure. Kind: D -/
def Reported (i : ι) (r : Except CoreError Bool) (_ : Database ι) (g : List ι) : Prop :=
  r = .ok true → i ∈ g

theorem reported_error {i : ι} (e : CoreError) (db : Database ι) (g : List ι) :
    Reported i (.error e) db g :=
  fun h => by cases h

/-- The programs that keep to the agreement. Source: none: infrastructure. Kind: D -/
abbrev RaceSafe (key : StorageKey) (expected : Option Bytes) (s : Rows) (i : ι)
    (p : BackendM postgres Bool) (db : Database ι) (g : List ι) : Prop :=
  p.Safe (raceDiscipline key expected s) i (Reported i) db g

variable {i : ι} {db : Database ι} {g : List ι}

theorem raceSafe_err (e : CoreError) : RaceSafe key expected s i (.err e) db g :=
  fun db g _ _ => reported_error e db g

/-- A compare that fails. Source: `rollout-storage/src/postgres/mod.rs` `cas_bytes`. Kind: L -/
theorem casTxn_eq (hkey : postgres.check key = .ok ()) (new : Option Bytes) :
    casTxn key expected new = RowLocks.ask .begin >>= fun _ =>
      RowLocks.ask (.selectForUpdate key) >>= fun current =>
        if current ≠ expected then StorageTxn.commit >>= fun _ => .ret false
        else applySwap key expected new >>= fun _ => StorageTxn.commit >>= fun _ => .ret true := by
  unfold casTxn begin
  congr 1
  funext _
  show casBytes key expected new >>= _ = _
  unfold casBytes
  rw [hkey, Prog.ofExcept_ok, Prog.ret_bind, Prog.bind_assoc]
  congr 1
  funext current
  split
  · rfl
  · rw [Prog.bind_assoc]
    rfl

/-- A transaction that has written nothing may commit and report no swap.
Source: none: infrastructure. Kind: L -/
theorem raceSafe_lost (hnil : db.writes i = []) :
    RaceSafe key expected s i ((StorageTxn.commit : BackendM postgres Unit) >>= fun _ => .ret false)
      db g := by
  apply Service.safe_ask reported_error
  intro db' g' hr hinv
  refine ⟨.inl (hr.1.writes.trans hnil), ?_⟩
  intro ch a db'' hperf _ _ db₃ g₃ _ _ h
  cases h

/-- A transaction that has written the row it holds may commit and report the swap.
Source: none: infrastructure. Kind: L -/
theorem raceSafe_won (hheld : Held key expected i db) (hview : db.view i key ≠ expected) :
    RaceSafe key expected s i ((StorageTxn.commit : BackendM postgres Unit) >>= fun _ => .ret true)
      db g := by
  apply Service.safe_ask reported_error
  intro db' g' hr hinv
  obtain ⟨hkeeps, -⟩ := hr
  have hheld' : Held key expected i db' :=
    ⟨hkeeps.holder key hheld.1, (hkeeps.committed key hheld.1).trans hheld.2⟩
  have hview' : db'.view i key ≠ expected := by
    rw [hkeeps.view hheld.1]
    exact hview
  refine ⟨.inr ⟨hheld', hview'⟩, ?_⟩
  intro ch a db'' hperf _ _ db₃ g₃ hr₃ _ _
  apply hr₃.2
  have hne : db'.writes i ≠ [] := by
    intro hnil
    rw [Db.view_of_writes_nil hnil] at hview'
    exact hview' hheld'.2
  show i ∈ (if db'.writes i = [] then g' else i :: g')
  rw [if_neg hne]
  exact List.mem_cons_self

/-- The write of a swap whose transaction holds the row, and the commit.
Source: `rollout-storage/src/postgres/mod.rs` `cas_bytes`. Kind: L -/
theorem raceSafe_applySwap {new : Option Bytes} (hheld : Held key expected i db)
    (hnil : db.writes i = []) (hrow : expected ≠ none) (hnew : new ≠ expected) :
    RaceSafe key expected s i (applySwap key expected new >>= fun _ =>
      StorageTxn.commit >>= fun _ => .ret true) db g := by
  have hwon : ∀ {db' : Database ι} {o : Option Bytes} {g' : List ι}, Db.Keeps i db db' →
      o ≠ expected → RaceSafe key expected s i
        ((StorageTxn.commit : BackendM postgres Unit) >>= fun _ => .ret true)
        (db'.write i key o) g' := by
    intro db' o g' hkeeps ho
    apply raceSafe_won
    · exact ⟨Db.holder_lock_self, (hkeeps.committed key hheld.1).trans hheld.2⟩
    · rw [Db.view_write, if_pos rfl]
      exact ho
  cases new with
  | some v =>
      apply Service.safe_ask reported_error
      intro db' g' hr hinv
      refine ⟨trivial, ?_⟩
      intro ch a db'' hperf _ _
      obtain ⟨-, rfl⟩ := perform_upsert.mp hperf
      exact hwon hr.1 hnew
  | none =>
      cases expected with
      | none => exact absurd rfl hnew
      | some w =>
          apply Service.safe_ask reported_error
          intro db' g' hr hinv
          refine ⟨trivial, ?_⟩
          intro ch a db'' hperf _ _
          have hview : db'.view i key ≠ none := by
            rw [hr.1.view hheld.1, Db.view_of_writes_nil hnil, hheld.2]
            exact hrow
          rcases perform_delete hperf with ⟨hnone, -⟩ | ⟨-, rfl⟩
          · exact absurd hnone hview
          · exact hwon hr.1 hnew

/-- **One swapping transaction keeps to the agreement**, when the row is there, a value is
expected or the key is refused. Source: `rollout-storage/src/postgres/mod.rs` `cas_bytes`.
Kind: P -/
theorem raceSafe_casTxn {new : Option Bytes}
    (hrow : expected ≠ none ∨ s.get key ≠ none ∨ postgres.check key ≠ .ok ()) (hnew : new ≠ expected) (hnil : db.writes i = []) :
    RaceSafe key expected s i (casTxn key expected new) db g := by
  cases hkey : postgres.check key with
  | error e =>
      have hprog : casTxn key expected new = RowLocks.ask .begin >>= fun _ => .err e := by
        unfold casTxn begin
        congr 1
        funext _
        show casBytes key expected new >>= _ = _
        unfold casBytes
        rw [hkey]
        rfl
      rw [hprog]
      apply Service.safe_ask reported_error
      exact fun _ _ _ _ => ⟨trivial, fun _ _ _ _ _ _ => raceSafe_err e⟩
  | ok u =>
      rw [casTxn_eq hkey]
      apply Service.safe_ask reported_error
      intro db₁ g₁ hr₁ _
      refine ⟨trivial, ?_⟩
      intro _ _ db₂ hbegin _ _
      obtain ⟨-, rfl⟩ := Prod.mk.inj (Option.some.inj hbegin)
      apply Service.safe_ask reported_error
      intro db₃ g₃ hr₃ hinv
      refine ⟨trivial, ?_⟩
      intro _ current db₄ hselect _ _
      obtain ⟨hcur, hc, hw, hlock⟩ := perform_selectForUpdate hselect
      have hnil₃ : db₃.writes i = [] := hr₃.1.writes.trans (hr₁.1.writes.trans hnil)
      have hnil₄ : db₄.writes i = [] := (congrFun hw i).trans hnil₃
      rw [Db.view_of_writes_nil hnil₃] at hcur
      split
      · exact raceSafe_lost hnil₄
      · next heq =>
        have heq : current = expected := Decidable.not_not.mp heq
        -- nobody has won yet, so the row that was read is the first one
        have hsome : expected ≠ none := by
          intro hnone
          have hg : g₃ = [] := by
            by_contra hne
            exact hinv.won hne (hcur.symm.trans heq)
          rcases hrow with h | h | h
          · exact h hnone
          · exact h ((hinv.fresh hg).symm.trans (hcur.symm.trans (heq.trans hnone)))
          · exact h hkey
        have hheld : Held key expected i db₄ := by
          refine ⟨hlock (heq ▸ hsome), ?_⟩
          rw [hc, ← hcur]
          exact heq
        exact raceSafe_applySwap hheld hnil₄ hsome hnew

variable {tr : List (BackendEvent postgres ι)}
  {d : Config ((requests postgres.toBackend Bytes).iface CoreError) CoreError (Database ι)
    fun _ : ι => Bool}

/-- **One winner**, when the row is there, a value is expected or the key is refused.
Source: `rollout-storage/src/postgres/mod.rs` `cas_bytes`. Kind: P -/
theorem cas_exclusive
    (hrow : expected ≠ none ∨ s.get key ≠ none ∨ postgres.check key ≠ .ok ())
    (hnew : ∀ i, new i ≠ expected) (hrun : Run (machine postgres ι) (race key expected new s) tr d) {i j : ι}
    (hi : d.progs i = .ret true) (hj : d.progs j = .ret true) : i = j := by
  have hinit : RaceInv key expected s (Db.rest s : Database ι) [] :=
    ⟨Db.wf_rest s, Nat.zero_le 1, fun _ => rfl, fun h => absurd rfl h⟩
  have hsafe : ∀ i, RaceSafe key expected s i ((race key expected new s).progs i) (Db.rest s) [] :=
    fun i => raceSafe_casTxn hrow (hnew i) rfl
  have hwin : ∀ {i}, d.progs i = .ret true → i ∈ tr.foldl winners [] := fun hi =>
    hrun.sound_ret (raceDiscipline key expected s) Reported hinit hsafe (fun _ _ => trivial) hi rfl
  have hinv := (hrun.sound (raceDiscipline key expected s) Reported hinit hsafe
    fun _ _ => trivial).1
  have hone := hinv.one
  have hmi := hwin hi
  have hmj := hwin hj
  obtain ⟨w, hw⟩ := List.length_eq_one_iff.mp (Nat.le_antisymm hone (List.length_pos_of_mem hmi))
  have hw : tr.foldl winners [] = [w] := hw
  rw [hw, List.mem_singleton] at hmi hmj
  rw [hmi, hmj]

/-! ## An absent row -/

/-- **Two winners**, when no row is there and none is expected: both transactions read no row, and
the second upsert waits for the first commit and overwrites it.
Source: `rollout-storage/src/postgres/mod.rs` `cas_bytes`. Kind: P -/
theorem cas_both_win (hkey : postgres.check key = .ok ()) (habsent : s.get key = none)
    (hnew : ∀ i, new i ≠ none) {i j : ι} (hij : i ≠ j) :
    ∃ tr d, Run (machine postgres ι) (race key none new s) tr d ∧
      d.progs i = .ret true ∧ d.progs j = .ret true := by
  obtain ⟨v, hv⟩ := Option.ne_none_iff_exists'.mp (hnew i)
  obtain ⟨w, hw⟩ := Option.ne_none_iff_exists'.mp (hnew j)
  have hprog : ∀ k x, new k = some x → (race key none new s).progs k = RowLocks.ask .begin >>= fun _ =>
      RowLocks.ask (.selectForUpdate key) >>= fun current =>
        if current ≠ none then StorageTxn.commit >>= fun _ => .ret false
        else RowLocks.ask (.upsert key x) >>= fun _ => StorageTxn.commit >>= fun _ => .ret true := by
    intro k x hx
    have hcas := @casTxn_eq key none hkey (new k)
    rw [hx] at hcas
    show casTxn key none (new k) = _
    rw [hx]
    exact hcas
  have hview : ∀ k, (Db.rest s : Database ι).view k key = none := fun k =>
    (Db.view_of_writes_nil rfl).trans habsent
  have hbegin : ∀ k (db : Database ι), perform (B := postgres.toBackend) (ν := Bytes) k .begin db =
      some ((), db) := fun _ _ => rfl
  have hselect : ∀ k, perform (B := postgres.toBackend) k (.selectForUpdate key)
      (Db.rest s : Database ι) = some (none, Db.rest s) := by
    intro k
    simp only [perform, hview]
  have hupsert : ∀ k x (db : Database ι), db.holder key = none →
      perform (B := postgres.toBackend) k (.upsert key x) db =
        some ((), db.write k key (some x)) := fun k x db hfree =>
    perform_upsert.mpr ⟨.inl hfree, rfl⟩
  have hcommit : ∀ k (db : Database ι), perform (B := postgres.toBackend) (ν := Bytes) k .commit db =
      some ((), db.commit k) := fun _ _ => rfl
  -- both begin and read no row
  obtain ⟨tr₁, d₁, h₁, hs₁, hi₁, ho₁⟩ := run_statement .refl (hprog i v hv) (hbegin i _)
  obtain ⟨tr₂, d₂, h₂, hs₂, hj₂, ho₂⟩ :=
    run_statement h₁ ((ho₁ j hij.symm).trans (hprog j w hw)) (hbegin j _)
  obtain ⟨tr₃, d₃, h₃, hs₃, hi₃, ho₃⟩ := run_statement h₂ ((ho₂ i hij).trans hi₁)
    (by rw [hs₂, hs₁]; exact hselect i)
  obtain ⟨tr₄, d₄, h₄, hs₄, hj₄, ho₄⟩ := run_statement h₃ ((ho₃ j hij.symm).trans hj₂)
    (by rw [hs₃]; exact hselect j)
  -- one writes and commits, then the other
  obtain ⟨tr₅, d₅, h₅, hs₅, hi₅, ho₅⟩ := run_statement h₄ ((ho₄ i hij).trans hi₃)
    (hupsert i v _ (by rw [hs₄]; rfl))
  obtain ⟨tr₆, d₆, h₆, hs₆, hi₆, ho₆⟩ := run_statement h₅ hi₅ (hcommit i _)
  have hfree : d₆.shared.holder key = none := by
    rw [hs₆, hs₅, hs₄]
    show (if _ = some i then none else _) = none
    rw [Db.holder_write, Db.holder_lock_self, if_pos rfl]
  obtain ⟨tr₇, d₇, h₇, hs₇, hj₇, ho₇⟩ := run_statement h₆
    ((ho₆ j hij.symm).trans ((ho₅ j hij.symm).trans hj₄)) (hupsert j w _ hfree)
  obtain ⟨tr₈, d₈, h₈, hs₈, hj₈, ho₈⟩ := run_statement h₇ hj₇ (hcommit j _)
  exact ⟨tr₈, d₈, h₈, (ho₈ i hij).trans ((ho₇ i hij).trans hi₆), hj₈⟩

/-- **Exactly when a swap has one winner**: unless the key is accepted, no row is there, none is
expected, and there are two transactions. Source: `rollout-storage/src/postgres/mod.rs` `cas_bytes`.
Kind: C -/
theorem cas_exclusive_iff (hnew : ∀ i, new i ≠ expected) :
    (∀ tr d, Run (machine postgres ι) (race key expected new s) tr d →
      ∀ i j, d.progs i = .ret true → d.progs j = .ret true → i = j) ↔
      ¬ (postgres.check key = .ok () ∧ expected = none ∧ s.get key = none ∧ ∃ i j : ι, i ≠ j) := by
  constructor
  · rintro h ⟨hkey, rfl, habsent, i, j, hij⟩
    obtain ⟨tr, d, hrun, hi, hj⟩ := cas_both_win hkey habsent hnew hij
    exact hij (h tr d hrun i j hi hj)
  · intro h tr d hrun i j hi hj
    by_contra hij
    refine hij (cas_exclusive ?_ hnew hrun hi hj)
    by_contra hrow
    rw [not_or, not_or, Decidable.not_not, Decidable.not_not, Classical.not_not] at hrow
    exact h ⟨hrow.2.2, hrow.1, hrow.2.1, i, j, hij⟩

end race

/-- `cas_exclusive_iff` where two transactions renew one row, one after the other.
Source: `rollout-storage/tests/postgres_lease.rs`. Kind: C -/
theorem cas_exclusive_renewal :
    ∃ tr d, Run (machine postgres (Fin 2)) (race ⟨"epoch", none, []⟩ (some [1])
        (fun i => some [2, UInt8.ofNat i.1]) ((∅ : Rows).put ⟨"epoch", none, []⟩ [1])) tr d ∧
      d.progs 0 = .ret true ∧ d.progs 1 = .ret false ∧
      ∀ i j, d.progs i = .ret true → d.progs j = .ret true → i = j := by
  have hplay : ((race ⟨"epoch", none, []⟩ (some [1]) (fun i : Fin 2 => some [2, UInt8.ofNat i.1])
      ((∅ : Rows).put ⟨"epoch", none, []⟩ [1])).play
        (inTurn (machine postgres (Fin 2)) (.ok ()) [0, 0, 0, 0, 1, 1, 1])).map (fun x =>
          decide ((x.2.progs 0).result? = some (.ok true) ∧
            (x.2.progs 1).result? = some (.ok false))) = some true := by
    decide +kernel
  obtain ⟨⟨tr, d⟩, hplay, hend⟩ := Option.map_eq_some_iff.mp hplay
  obtain ⟨hfst, hsnd⟩ := of_decide_eq_true hend
  have hrun := Config.play_run hplay
  refine ⟨tr, d, hrun, Prog.eq_ret_of_result? hfst, Prog.eq_ret_of_result? hsnd, ?_⟩
  exact (cas_exclusive_iff fun i => by simp).mpr (fun h => by simp at h) tr d hrun

end Rollout.Backends
