import Rollout.Lib.Framed
import Rollout.Lib.Service

/-!
# A peer that answers frames

* `Exchange.Streams` — two byte streams between a client and a peer, each with all that was written
  to it and how far it has been read. The client writes and reads byte by byte (`Op`); the peer
  reads on, answers the next complete frame it has read, and writes its answers (`Turn`).
* `writeAll`, `readExact` — the loops of a client; an operation that fails ends it.
* `Settled` — everything written is complete frames, each is answered, and every answer is read.
* `safe_writeAll`, `safe_readExact` — what the loops do to the streams, whatever the peer does in
  between; `exchanged` — a frame written to settled streams and a frame read back are a request and
  its answer.
-/

set_option linter.unusedSectionVars false

namespace Rollout.Lib

namespace Exchange

open Framed

/-- What the client does. Source: none: infrastructure. Kind: D -/
inductive Op
  | write (b : UInt8)
  | flush
  | read

/-- What it gets. Source: none: infrastructure. Kind: D -/
@[reducible] def Op.Out : Op → Type
  | .read => UInt8
  | _ => Unit

/-- The operations as requests. Source: none: infrastructure. Kind: D -/
@[reducible] def requests : Requests where
  Op := Op
  Out := Op.Out

/-- The two streams. Source: none: infrastructure. Kind: D -/
structure Streams where
  /-- All the client has written. -/
  sent : Bytes
  /-- How much of it the peer has read. -/
  heard : Nat
  /-- The answers of the peer, in order. -/
  answers : List Bytes
  /-- How many bytes of its framed answers the peer has written. -/
  said : Nat
  /-- How many of those the client has read. -/
  taken : Nat
deriving DecidableEq

/-- Streams nobody has used. Source: none: infrastructure. Kind: D -/
def Streams.fresh : Streams := ⟨[], 0, [], 0, 0⟩

/-- What the peer does. Source: none: infrastructure. Kind: D -/
inductive Turn
  | hear (n : Nat)
  | answer (body : Bytes)
  | say (n : Nat)

variable (w : Nat)

/-- The effect of an operation of the client; a read waits for a byte.
Source: none: infrastructure. Kind: D -/
def perform : (o : Op) → Streams → Option (o.Out × Streams)
  | .write b, s => some ((), { s with sent := s.sent ++ [b] })
  | .flush, s => some ((), s)
  | .read, s =>
      if s.taken < s.said then
        (framed w s.answers)[s.taken]?.map fun b => (b, { s with taken := s.taken + 1 })
      else none

/-- The effect of what the peer does: it answers a frame only after it has read it to the end.
Source: none: infrastructure. Kind: D -/
def turn : Turn → Streams → Streams
  | .hear n, s => { s with heard := min (s.heard + n) s.sent.length }
  | .answer body, s =>
      if s.answers.length < (complete w (s.sent.take s.heard)).length ∧ body.length < 256 ^ w then
        { s with answers := s.answers ++ [body] }
      else s
  | .say n, s => { s with said := min (s.said + n) (framed w s.answers).length }

/-- **The client and its peer.** Source: none: infrastructure. Kind: D -/
@[reducible] def service : Service requests Unit Streams where
  Choice := Unit
  perform _ _ := perform w
  fail _ s := s
  Tick := Turn
  tick := turn w

/-! ## The loops of a client -/

section loops

variable {ε : Type} (wrap : String → ε)

/-- Programs of a client. Source: none: infrastructure. Kind: D -/
abbrev ClientM (ε : Type) := Prog (requests.iface String) ε

/-- Issue an operation; its failure, wrapped, ends the program.
Source: none: infrastructure. Kind: D -/
def attempt (o : Op) : ClientM ε o.Out :=
  .call o fun r => match r with
    | .ok a => .ret a
    | .error e => .err (wrap e)

/-- Write every byte. Source: none: infrastructure. Kind: D -/
def writeAll : Bytes → ClientM ε Unit
  | [] => return ()
  | b :: bs => do
      attempt wrap (.write b)
      writeAll bs

/-- Read so many bytes. Source: none: infrastructure. Kind: D -/
def readExact : Nat → ClientM ε Bytes
  | 0 => return []
  | n + 1 => do
      let b ← attempt wrap .read
      let bs ← readExact n
      return b :: bs

end loops

/-! ## What the streams are -/

/-- Nobody has got further than what is there. Source: none: infrastructure. Kind: D -/
structure WellFormed (s : Streams) : Prop where
  heard_le : s.heard ≤ s.sent.length
  answers_le : s.answers.length ≤ (complete w (s.sent.take s.heard)).length
  said_le : s.said ≤ (framed w s.answers).length
  taken_le : s.taken ≤ s.said
  fits : ∀ a ∈ s.answers, a.length < 256 ^ w

/-- Everything written is complete frames, each is answered, and every answer is read.
Source: none: infrastructure. Kind: D -/
structure Settled (s : Streams) (done : List Bytes) : Prop where
  fits : ∀ b ∈ done, b.length < 256 ^ w
  sent_eq : s.sent = framed w done
  answered : s.answers.length = done.length
  taken_eq : s.taken = (framed w s.answers).length

/-- What can have become of streams. Source: none: infrastructure. Kind: D -/
structure Since (s₀ s : Streams) : Prop where
  wellFormed : WellFormed w s
  sent_le : s₀.sent.length ≤ s.sent.length
  unread : s.sent.length = s₀.sent.length → s.taken = s₀.taken
  answers : s₀.answers <+: s.answers

variable {w} {s₀ s s' : Streams}

theorem wellFormed_fresh : WellFormed w .fresh where
  heard_le := le_refl 0
  answers_le := Nat.zero_le _
  said_le := le_refl 0
  taken_le := le_refl 0
  fits _ ha := absurd ha List.not_mem_nil

theorem settled_fresh : Settled w .fresh [] where
  fits _ hb := absurd hb List.not_mem_nil
  sent_eq := rfl
  answered := rfl
  taken_eq := rfl

theorem Since.refl (h : WellFormed w s) : Since w s s :=
  ⟨h, le_refl _, fun _ => rfl, List.prefix_refl _⟩

/-- Answers come after requests. Source: none: infrastructure. Kind: L -/
theorem WellFormed.answers_le_complete (h : WellFormed w s) :
    s.answers.length ≤ (complete w s.sent).length := by
  have hprefix := complete_mono (w := w) (s.sent.take s.heard) (s.sent.drop s.heard)
  rw [List.take_append_drop] at hprefix
  exact h.answers_le.trans hprefix.length_le

/-- What the peer does leaves the streams well formed. Source: none: infrastructure. Kind: L -/
theorem WellFormed.turn (h : WellFormed w s) (t : Turn) : WellFormed w (turn w t s) := by
  rcases t with n | body | n
  · refine ⟨Nat.min_le_right .., ?_, h.said_le, h.taken_le, h.fits⟩
    have hle : s.heard ≤ min (s.heard + n) s.sent.length := by
      have := h.heard_le
      omega
    obtain ⟨more, hmore⟩ := List.take_prefix_take_left (l := s.sent) hle
    show s.answers.length ≤ (complete w (s.sent.take (min (s.heard + n) s.sent.length))).length
    rw [← hmore]
    exact h.answers_le.trans (complete_mono _ _).length_le
  · rw [Exchange.turn]
    split
    · next hlt =>
      refine ⟨h.heard_le, ?_, ?_, h.taken_le, ?_⟩
      · rw [List.length_append, List.length_singleton]
        exact hlt.1
      · rw [framed_append, List.length_append]
        exact h.said_le.trans (Nat.le_add_right _ _)
      · intro a ha
        rcases List.mem_append.mp ha with ha | ha
        · exact h.fits a ha
        · rw [List.mem_singleton.mp ha]
          exact hlt.2
    · exact h
  · refine ⟨h.heard_le, h.answers_le, Nat.min_le_right .., ?_, h.fits⟩
    have htaken := h.taken_le
    have hsaid := h.said_le
    show s.taken ≤ min (s.said + n) (framed w s.answers).length
    omega

theorem answers_prefix_turn (t : Turn) (s : Streams) : s.answers <+: (turn w t s).answers := by
  rcases t with n | body | n
  · exact List.prefix_refl _
  · rw [turn]
    split
    · exact List.prefix_append _ _
    · exact List.prefix_refl _
  · exact List.prefix_refl _

@[simp] theorem sent_turn (t : Turn) (s : Streams) : (turn w t s).sent = s.sent := by
  rcases t with n | body | n
  · rfl
  · rw [turn]
    split <;> rfl
  · rfl

@[simp] theorem taken_turn (t : Turn) (s : Streams) : (turn w t s).taken = s.taken := by
  rcases t with n | body | n
  · rfl
  · rw [turn]
    split <;> rfl
  · rfl

theorem WellFormed.write (h : WellFormed w s) (b : UInt8) :
    WellFormed w { s with sent := s.sent ++ [b] } := by
  refine ⟨?_, ?_, h.said_le, h.taken_le, h.fits⟩
  · rw [List.length_append]
    exact h.heard_le.trans (Nat.le_add_right _ _)
  · show s.answers.length ≤ (complete w ((s.sent ++ [b]).take s.heard)).length
    rw [List.take_append_of_le_length h.heard_le]
    exact h.answers_le

theorem WellFormed.read (h : WellFormed w s) (hlt : s.taken < s.said) :
    WellFormed w { s with taken := s.taken + 1 } :=
  ⟨h.heard_le, h.answers_le, h.said_le, hlt, h.fits⟩

theorem perform_read_eq {b : UInt8} :
    perform w .read s = some (b, s') ↔
      s.taken < s.said ∧ (framed w s.answers)[s.taken]? = some b ∧
        s' = { s with taken := s.taken + 1 } := by
  rw [perform]
  constructor
  · intro h
    obtain ⟨hlt, hmap⟩ := Option.ite_none_right_eq_some.mp h
    obtain ⟨b', hget, heq⟩ := Option.map_eq_some_iff.mp hmap
    obtain ⟨rfl, rfl⟩ := Prod.mk.inj heq
    exact ⟨hlt, hget, rfl⟩
  · rintro ⟨hlt, hget, rfl⟩
    rw [if_pos hlt, hget]
    rfl

/-! ## What the loops do -/

/-- What the client knows when it issues an operation. Source: none: infrastructure. Kind: D -/
def Knows (s₀ : Streams) (o : Op) (s : Streams) : Prop :=
  match o with
  | .read => s₀.sent.length < s.sent.length
  | _ => True

/-- What an operation of the client leaves. Source: none: infrastructure. Kind: L -/
theorem Since.perform {o : Op} {a : o.Out} (h : Since w s₀ s) (hknows : Knows s₀ o s)
    (hperf : perform w o s = some (a, s')) : Since w s₀ s' := by
  rcases o with b | _ | _
  · obtain ⟨-, rfl⟩ := Prod.mk.inj (Option.some.inj hperf)
    have hlonger : s₀.sent.length < (s.sent ++ [b]).length := by
      rw [List.length_append, List.length_singleton]
      exact Nat.lt_succ_of_le h.sent_le
    exact ⟨h.wellFormed.write b, hlonger.le, fun heq => absurd heq hlonger.ne', h.answers⟩
  · obtain ⟨-, rfl⟩ := Prod.mk.inj (Option.some.inj hperf)
    exact h
  · obtain ⟨hlt, -, rfl⟩ := perform_read_eq.mp hperf
    have hlonger : s₀.sent.length < s.sent.length := hknows
    exact ⟨h.wellFormed.read hlt, h.sent_le, fun heq => absurd heq hlonger.ne', h.answers⟩

theorem Since.turn (h : Since w s₀ s) (t : Turn) : Since w s₀ (turn w t s) where
  wellFormed := h.wellFormed.turn t
  sent_le := by
    rw [sent_turn]
    exact h.sent_le
  unread := by
    rw [sent_turn, taken_turn]
    exact h.unread
  answers := h.answers.trans (answers_prefix_turn t s)

/-- What the client relies on: the peer only adds answers.
Source: none: infrastructure. Kind: D -/
structure Relies (s s' : Streams) : Prop where
  sent : s'.sent = s.sent
  taken : s'.taken = s.taken
  answers : s.answers <+: s'.answers

theorem Relies.refl (s : Streams) : Relies s s := ⟨rfl, rfl, List.prefix_refl _⟩

theorem Relies.trans {s'' : Streams} (h : Relies s s') (h' : Relies s' s'') : Relies s s'' :=
  ⟨h'.sent.trans h.sent, h'.taken.trans h.taken, h.answers.trans h'.answers⟩

theorem relies_turn (t : Turn) (s : Streams) : Relies s (turn w t s) :=
  ⟨sent_turn t s, taken_turn t s, answers_prefix_turn t s⟩

variable (w s₀) in
/-- **The agreement** of a client that reads only after it has written, and its peer.
Source: none: infrastructure. Kind: D -/
def rules : Service.Rules (service w) Unit where
  upd g _ _ _ := g
  inv s _ := Since w s₀ s
  rely _ s _ s' _ := Relies s s'
  pre _ o s _ := Knows s₀ o s
  assume _ := True
  rely_refl _ s _ := Relies.refl s
  rely_trans _ _ _ _ _ _ _ h h' := h.trans h'
  step _ _ _ _ _ _ _ hperf _ hinv hknows := ⟨hinv.perform hknows hperf, fun _ hj => absurd rfl hj⟩
  fail _ s _ hinv := ⟨hinv, fun _ _ => Relies.refl s⟩
  tick t s _ hinv := ⟨hinv.turn t, fun _ => relies_turn t s⟩

variable (w s₀) in
/-- The same as a discipline. Source: none: infrastructure. Kind: D -/
abbrev agreement : Discipline ((service w).machine String) Unit := (rules w s₀).discipline String

theorem agreement_assume (e : Event (requests.iface String) Unit Streams) :
    (agreement w s₀).assume e := by
  obtain ⟨i, o, err | a, t, t'⟩ := e <;> trivial

/-- What is claimed of a result, and nothing of a failure. Source: none: infrastructure. Kind: D -/
def Yields {ε α : Type} (Q : α → Streams → Prop) : Except ε α → Streams → Unit → Prop
  | .ok a, s, _ => Q a s
  | .error _, _, _ => True

variable {ε α : Type} {wrap : String → ε}

/-- **The rule for one operation.** Source: none: infrastructure. Kind: L -/
theorem safe_attempt {o : Op} {f : o.Out → ClientM ε α} {Q : α → Streams → Prop}
    (h : ∀ s', Relies s s' → Since w s₀ s' → Knows s₀ o s' ∧ ∀ a s'', perform w o s' = some (a, s'') →
      Since w s₀ s'' → (f a).Safe (agreement w s₀) () (Yields Q) s'' ()) :
    (attempt wrap o >>= f).Safe (agreement w s₀) () (Yields Q) s () := by
  intro s' g hr hinv
  obtain ⟨hknows, hf⟩ := h s' hr hinv
  refine ⟨hknows, ?_⟩
  intro r s'' hd _ hinv'
  rcases Service.does_iff.mp hd with ⟨err, rfl, -⟩ | ⟨_, a, hperf, rfl⟩
  · exact fun _ _ _ _ => trivial
  · exact hf a s'' hperf hinv'

/-- A loop that writes writes just that. Induction on the bytes.
Source: none: infrastructure. Kind: L -/
theorem safe_writeAll (bs : Bytes) :
    (writeAll wrap bs).Safe (agreement w s₀) ()
      (Yields fun _ s' => s'.sent = s.sent ++ bs ∧ s'.taken = s.taken) s () := by
  induction bs generalizing s with
  | nil =>
      intro s' g hr _
      exact ⟨by rw [hr.sent, List.append_nil], hr.taken⟩
  | cons b bs ih =>
      refine safe_attempt fun s' hr _ => ⟨trivial, fun a s'' hperf _ => ?_⟩
      obtain ⟨-, rfl⟩ := Prod.mk.inj (Option.some.inj hperf)
      refine Prog.Safe.weaken ?_ ih
      rintro (err | _) t g ht
      · trivial
      · refine ⟨ht.1.trans ?_, ht.2.trans hr.taken⟩
        rw [hr.sent, List.append_assoc]
        rfl

/-- What was read stays what the answers begin with. Source: none: infrastructure. Kind: L -/
theorem prefix_of_answers {bs : Bytes} {n : Nat} {as as' : List Bytes} (h : as <+: as')
    (hbs : bs <+: (framed w as).drop n) : bs <+: (framed w as').drop n := by
  obtain ⟨more, rfl⟩ := h
  rw [framed_append, List.drop_append]
  exact hbs.trans (List.prefix_append _ _)

variable (w) in
/-- The next bytes of the answers have been read. Source: none: infrastructure. Kind: D -/
structure HasRead (s : Streams) (n : Nat) (bs : Bytes) (s' : Streams) : Prop where
  sent : s'.sent = s.sent
  taken : s'.taken = s.taken + n
  answers : s.answers <+: s'.answers
  length : bs.length = n
  bytes : bs <+: (framed w s'.answers).drop s.taken

theorem HasRead.relies {s'' : Streams} {n : Nat} {bs : Bytes} (h : HasRead w s n bs s')
    (hr : Relies s' s'') : HasRead w s n bs s'' where
  sent := hr.sent.trans h.sent
  taken := hr.taken.trans h.taken
  answers := h.answers.trans hr.answers
  length := h.length
  bytes := prefix_of_answers hr.answers h.bytes

/-- One byte more. Source: none: infrastructure. Kind: L -/
theorem HasRead.cons {s₁ s₂ : Streams} {n : Nat} {b : UInt8} {bs : Bytes} (hr : Relies s s₁)
    (hget : (framed w s₁.answers)[s₁.taken]? = some b)
    (h : HasRead w { s₁ with taken := s₁.taken + 1 } n bs s₂) : HasRead w s (n + 1) (b :: bs) s₂ where
  sent := h.sent.trans hr.sent
  taken := by
    have htaken : s₂.taken = s₁.taken + 1 + n := h.taken
    rw [htaken, hr.taken]
    omega
  answers := hr.answers.trans h.answers
  length := by rw [List.length_cons, h.length]
  bytes := by
    have hbytes : bs <+: (framed w s₂.answers).drop (s₁.taken + 1) := h.bytes
    have hone : [b] <+: (framed w s₁.answers).drop s₁.taken := by
      obtain ⟨hlt, hb⟩ := List.getElem?_eq_some_iff.mp hget
      rw [List.drop_eq_getElem_cons hlt, hb]
      exact List.cons_prefix_cons.mpr ⟨rfl, List.nil_prefix⟩
    obtain ⟨more, hmore⟩ := prefix_of_answers h.answers hone
    rw [← hr.taken, ← hmore]
    refine List.cons_prefix_cons.mpr ⟨rfl, ?_⟩
    rw [← List.drop_drop, ← hmore] at hbytes
    exact hbytes

/-- A loop that reads reads the next bytes of the answers. Induction on their number.
Source: none: infrastructure. Kind: L -/
theorem safe_readExact (hsent : s₀.sent.length < s.sent.length) (n : Nat) :
    (readExact wrap n).Safe (agreement w s₀) () (Yields (HasRead w s n)) s () := by
  induction n generalizing s with
  | zero =>
      intro s' g hr _
      exact ⟨hr.sent, hr.taken, hr.answers, rfl, List.nil_prefix⟩
  | succ n ih =>
      refine safe_attempt fun s' hr _ => ⟨?_, fun b s'' hperf _ => ?_⟩
      · show s₀.sent.length < s'.sent.length
        rw [hr.sent]
        exact hsent
      obtain ⟨_, hget, rfl⟩ := perform_read_eq.mp hperf
      refine Prog.Safe.bind (Prog.Safe.weaken ?_ (ih (by rw [hr.sent]; exact hsent)))
      rintro (err | bs) t g ht
      · trivial
      · exact fun t' g' hrt _ => (HasRead.cons hr hget ht).relies hrt

/-! ## A request and its answer -/

variable (w) in
/-- A frame has been written and one has been read: they are a request and its answer.
Source: none: infrastructure. Kind: D -/
structure Exchanged (s₀ : Streams) (body resp : Bytes) (s : Streams) : Prop where
  sent : s.sent = s₀.sent ++ frame w body
  answers : s.answers = s₀.answers ++ [resp]
  taken : s.taken = (framed w s.answers).length

theorem complete_of_settled {done : List Bytes} {body : Bytes} (hw : 0 < w)
    (hsettled : Settled w s₀ done) (hfits : body.length < 256 ^ w) :
    complete w (s₀.sent ++ frame w body) = done ++ [body] := by
  rw [hsettled.sent_eq, ← framed_singleton, ← framed_append]
  refine complete_framed hw fun b hb => ?_
  rcases List.mem_append.mp hb with hb | hb
  · exact hsettled.fits b hb
  · rw [List.mem_singleton.mp hb]
    exact hfits

/-- The header that follows what was read of settled streams is that of the answer to the one frame
written since. Source: none: infrastructure. Kind: L -/
theorem answer_of_header {done : List Bytes} {body header : Bytes} (hw : 0 < w)
    (hsettled : Settled w s₀ done) (hfits : body.length < 256 ^ w) (hsince : Since w s₀ s)
    (hsent : s.sent = s₀.sent ++ frame w body) (hlen : header.length = w)
    (hheader : header <+: (framed w s.answers).drop s₀.taken) :
    ∃ resp, s.answers = s₀.answers ++ [resp] ∧ lengthOf header = resp.length := by
  obtain ⟨more, hmore⟩ := hsince.answers
  have hcount : more.length ≤ 1 := by
    have hle := hsince.wellFormed.answers_le_complete
    rw [hsent, complete_of_settled hw hsettled hfits, ← hmore, List.length_append,
      List.length_append,
      hsettled.answered, List.length_singleton] at hle
    omega
  rw [← hmore, framed_append, hsettled.taken_eq, List.drop_left] at hheader
  rcases more with _ | ⟨resp, _ | ⟨_, _⟩⟩
  · have := hheader.length_le
    rw [framed_nil, List.length_nil] at this
    omega
  · refine ⟨resp, hmore.symm, ?_⟩
    have hresp : resp.length < 256 ^ w := hsince.wellFormed.fits resp (by rw [← hmore]; simp)
    rw [framed_singleton, List.prefix_iff_eq_take, hlen, frame,
      List.take_left' (by simp)] at hheader
    rw [hheader, lengthOf_render hresp]
  · simp at hcount

/-- **A frame written to settled streams and a frame read back are a request and its answer.**
Source: none: infrastructure. Kind: P -/
theorem exchanged_of_read {done : List Bytes} {body header resp : Bytes} {s₁ s₂ : Streams}
    (hw : 0 < w)
    (hsettled : Settled w s₀ done) (hfits : body.length < 256 ^ w) (hsince : Since w s₀ s₂)
    (hsent : s.sent = s₀.sent ++ frame w body) (htaken : s.taken = s₀.taken)
    (hhead : HasRead w s w header s₁) (hbody : HasRead w s₁ (lengthOf header) resp s₂) :
    Exchanged w s₀ body resp s₂ := by
  have hsent₂ : s₂.sent = s₀.sent ++ frame w body := by rw [hbody.sent, hhead.sent, hsent]
  have hheader : header <+: (framed w s₂.answers).drop s₀.taken := by
    rw [← htaken]
    exact prefix_of_answers hbody.answers hhead.bytes
  obtain ⟨resp', hanswers, hlength⟩ :=
    answer_of_header hw hsettled hfits hsince hsent₂ hhead.length hheader
  have htaken₁ : s₁.taken = (framed w s₀.answers).length + w := by
    rw [hhead.taken, htaken, hsettled.taken_eq]
  have hresp : resp = resp' := by
    have hbytes := hbody.bytes
    rw [hanswers, framed_append, framed_singleton, frame, htaken₁, List.drop_append,
      List.drop_eq_nil_of_le
      (by omega), List.nil_append, Nat.add_sub_cancel_left, List.drop_left' (by simp)] at hbytes
    exact hbytes.eq_of_length (hbody.length.trans hlength)
  subst hresp
  refine ⟨hsent₂, hanswers, ?_⟩
  rw [hbody.taken, htaken₁, hlength, hanswers, framed_append, framed_singleton, List.length_append,
    length_frame, Nat.add_assoc]

/-- After a request and its answer the streams are settled again.
Source: none: infrastructure. Kind: L -/
theorem Settled.exchanged {done : List Bytes} {body resp : Bytes} (h : Settled w s₀ done)
    (hfits : body.length < 256 ^ w) (hex : Exchanged w s₀ body resp s) :
    Settled w s (done ++ [body]) where
  fits b hb := by
    rcases List.mem_append.mp hb with hb | hb
    · exact h.fits b hb
    · rw [List.mem_singleton.mp hb]
      exact hfits
  sent_eq := by rw [hex.sent, h.sent_eq, framed_append, framed_singleton]
  answered := by
    rw [hex.answers, List.length_append, List.length_append, h.answered]
    rfl
  taken_eq := hex.taken

/-- Streams nobody has written to since stay settled. Source: none: infrastructure. Kind: L -/
theorem Settled.unwritten {done : List Bytes} (hw : 0 < w) (h : Settled w s₀ done)
    (hsince : Since w s₀ s) (hsent : s.sent = s₀.sent) : Settled w s done := by
  have hcount := hsince.wellFormed.answers_le_complete
  rw [hsent, h.sent_eq, complete_framed hw h.fits, ← h.answered] at hcount
  have hanswers : s₀.answers = s.answers := hsince.answers.eq_of_length_le hcount
  refine ⟨h.fits, hsent.trans h.sent_eq, ?_, ?_⟩
  · rw [← hanswers]
    exact h.answered
  · rw [← hanswers, hsince.unread (by rw [hsent])]
    exact h.taken_eq

end Exchange

end Rollout.Lib
