import Rollout.Lib.Digits
import Rollout.Lib.Wire

/-!
# Length-prefixed frames on a byte stream

* `Framed.frame w body` — the length of a body in `w` bytes, most significant first, and the body;
  `framed w` puts several one after the other.
* `Framed.complete w bs` — the bodies a reader of the stream `bs` has seen to the end; what follows
  them is the beginning of one more.
* `complete_framed` — frames are read back; `complete_mono` — more bytes add bodies at the end.
-/

set_option linter.unusedSectionVars false

namespace Rollout.Lib

namespace Framed

/-- Numbers in bytes, most significant first. Source: none: infrastructure. Kind: D -/
def bytes256 : Radix UInt8 where
  base := 256
  digit d := UInt8.ofNat d
  value c := some c.toNat
  value_digit d hd := by rw [UInt8.toNat_ofNat', Nat.mod_eq_of_lt hd]

/-- The length a header stands for. Source: none: infrastructure. Kind: D -/
def lengthOf (header : Bytes) : Nat := (bytes256.parse header).getD 0

/-- A body behind its length. Source: none: infrastructure. Kind: D -/
def frame (w : Nat) (body : Bytes) : Bytes := bytes256.render w body.length ++ body

/-- Frames one after the other. Source: none: infrastructure. Kind: D -/
def framed (w : Nat) (bodies : List Bytes) : Bytes := bodies.flatMap (frame w)

/-- The first body of a stream that has arrived to its end, and what follows it.
Source: none: infrastructure. Kind: D -/
def unframe (w : Nat) (bs : Bytes) : Option (Bytes × Bytes) :=
  if bs.length < w ∨ (bs.drop w).length < lengthOf (bs.take w) then none
  else some ((bs.drop w).take (lengthOf (bs.take w)), (bs.drop w).drop (lengthOf (bs.take w)))

/-- The same over and over. Source: none: infrastructure. Kind: D -/
def completeFrom (w : Nat) : Nat → Bytes → List Bytes
  | 0, _ => []
  | n + 1, bs =>
      match unframe w bs with
      | none => []
      | some (body, rest) => body :: completeFrom w n rest

/-- The bodies of a stream that have arrived to their end.
Source: none: infrastructure. Kind: D -/
def complete (w : Nat) (bs : Bytes) : List Bytes := completeFrom w bs.length bs

variable {w : Nat}

@[simp] theorem framed_nil : framed w [] = [] := rfl

@[simp] theorem framed_append (as bs : List Bytes) :
    framed w (as ++ bs) = framed w as ++ framed w bs := List.flatMap_append

@[simp] theorem framed_singleton (body : Bytes) : framed w [body] = frame w body :=
  List.flatMap_singleton ..

@[simp] theorem framed_cons (body : Bytes) (bodies : List Bytes) :
    framed w (body :: bodies) = frame w body ++ framed w bodies := List.flatMap_cons

@[simp] theorem length_frame (body : Bytes) : (frame w body).length = w + body.length := by
  simp [frame]

/-- The length in a header is read back. Source: none: infrastructure. Kind: L -/
@[simp] theorem lengthOf_render {n : Nat} (hn : n < 256 ^ w) : lengthOf (bytes256.render w n) = n := by
  unfold lengthOf
  rw [bytes256.parse_render w hn]
  rfl

theorem unframe_frame {body : Bytes} (hfits : body.length < 256 ^ w) (rest : Bytes) :
    unframe w (frame w body ++ rest) = some (body, rest) := by
  have htake : (frame w body ++ rest).take w = bytes256.render w body.length := by
    rw [frame, List.append_assoc, List.take_left' (by simp)]
  have hdrop : (frame w body ++ rest).drop w = body ++ rest := by
    rw [frame, List.append_assoc, List.drop_left' (by simp)]
  unfold unframe
  rw [htake, hdrop, lengthOf_render hfits, if_neg]
  · simp
  · simp
    omega

/-- A body that has arrived stays when more bytes follow. Source: none: infrastructure. Kind: L -/
theorem unframe_append {bs body rest : Bytes} (h : unframe w bs = some (body, rest))
    (more : Bytes) :
    unframe w (bs ++ more) = some (body, rest ++ more) := by
  unfold unframe at h ⊢
  obtain ⟨hlen, hparts⟩ := Option.ite_none_left_eq_some.mp h
  obtain ⟨rfl, rfl⟩ := Prod.mk.inj (Option.some.inj hparts)
  rw [not_or, not_lt, not_lt] at hlen
  obtain ⟨hw, hbody⟩ := hlen
  rw [List.take_append_of_le_length hw, List.drop_append_of_le_length hw, if_neg,
    List.take_append_of_le_length hbody, List.drop_append_of_le_length hbody]
  rw [not_or, not_lt, not_lt, List.length_append, List.length_append]
  omega

/-- **More bytes add bodies at the end.** Induction on the bodies read.
Source: none: infrastructure. Kind: P -/
theorem completeFrom_mono {n m : Nat} (h : n ≤ m) (bs more : Bytes) :
    completeFrom w n bs <+: completeFrom w m (bs ++ more) := by
  induction n generalizing m bs with
  | zero => exact List.nil_prefix
  | succ n ih =>
      obtain ⟨m, rfl⟩ := Nat.exists_eq_add_of_le' (Nat.lt_of_lt_of_le n.succ_pos h)
      rw [completeFrom, completeFrom]
      rcases hun : unframe w bs with _ | ⟨body, rest⟩
      · exact List.nil_prefix
      · rw [unframe_append hun more]
        exact List.cons_prefix_cons.mpr ⟨rfl, ih (Nat.le_of_succ_le_succ h) rest⟩

theorem complete_mono (bs more : Bytes) : complete w bs <+: complete w (bs ++ more) :=
  completeFrom_mono (by simp) bs more

theorem completeFrom_framed {bodies : List Bytes} (hfits : ∀ b ∈ bodies, b.length < 256 ^ w)
    {n : Nat}
    (hn : bodies.length ≤ n) (hw : 0 < w) : completeFrom w n (framed w bodies) = bodies := by
  induction bodies generalizing n with
  | nil =>
      have hnone : unframe w [] = none := by simp [unframe, hw]
      rcases n with _ | n
      · rfl
      · rw [completeFrom, framed_nil, hnone]
  | cons body bodies ih =>
      obtain ⟨n, rfl⟩ := Nat.exists_eq_add_of_le' (Nat.lt_of_lt_of_le Nat.succ_pos' hn)
      rw [completeFrom, framed_cons, unframe_frame (hfits body List.mem_cons_self)]
      exact congrArg (body :: ·)
        (ih (fun b hb => hfits b (List.mem_cons_of_mem _ hb)) (Nat.le_of_succ_le_succ hn))

theorem length_le_framed (hw : 0 < w) (bodies : List Bytes) :
    bodies.length ≤ (framed w bodies).length := by
  induction bodies with
  | nil => rfl
  | cons body bodies ih =>
      rw [framed_cons, List.length_append, length_frame, List.length_cons]
      omega

/-- **Frames are read back.** Source: none: infrastructure. Kind: P -/
theorem complete_framed (hw : 0 < w) {bodies : List Bytes}
    (hfits : ∀ b ∈ bodies, b.length < 256 ^ w) : complete w (framed w bodies) = bodies :=
  completeFrom_framed hfits (length_le_framed hw bodies) hw

end Framed

end Rollout.Lib
