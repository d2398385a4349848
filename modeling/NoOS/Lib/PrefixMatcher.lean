import Mathlib.Data.List.Infix
import Mathlib.Tactic.Common

/-!
# Matching a message in a stream

A matcher counts how much of the message stands at the end of what it has seen. When an
element does not fit it only looks at the first element of the message again. This is exact
if what it does not look at again would not fit either, as for a first element that does not
occur a second time.
-/

namespace PrefixMatcher

variable {α : Type*} {msg seen : List α} {idx k : ℕ} {ch : α}

/-- The first element of the message does not occur again. -/
def HeadUnique (msg : List α) : Prop := ∀ a ∈ msg.tail, msg.head? ≠ some a

instance [DecidableEq α] (msg : List α) : Decidable (HeadUnique msg) :=
  inferInstanceAs (Decidable (∀ a ∈ msg.tail, msg.head? ≠ some a))

/-- Two such messages with the same first element cannot both end a stream. -/
lemma HeadUnique.suffix_eq {other : List α} (h : HeadUnique msg) (h' : HeadUnique other)
    (hhead : msg.head? = other.head?) (hne : msg ≠ []) (hmsg : msg <:+ seen) (hother : other <:+ seen) :
    msg = other := by
  have hshort : ∀ {p q : List α}, HeadUnique q → p.head? = q.head? → p ≠ [] → p <:+ q → p = q := by
    intro p q hq hpq hp hsuffix
    obtain ⟨t, rfl⟩ := hsuffix
    cases t with
    | nil => rfl
    | cons b t =>
      cases p with
      | nil => exact absurd rfl hp
      | cons a p =>
        have hmem : a ∈ (b :: t ++ a :: p).tail := by simp
        exact absurd hpq.symm (hq a hmem)
  rcases List.suffix_or_suffix_of_suffix hmsg hother with hle | hle
  · exact hshort h' hhead hne hle
  · have hne' : other ≠ [] := by
      rintro rfl
      rw [List.head?_nil, List.head?_eq_none_iff] at hhead
      exact hne hhead
    exact (hshort h hhead.symm hne' hle).symm

/-- Where this start of the message ends with a shorter one, both go on alike. -/
def Restartable (msg : List α) (idx : ℕ) : Prop :=
  ∀ k < idx, 0 < k → msg.take k <:+ msg.take idx → msg[k]? = msg[idx]?

/-- All proper starts go on like the shorter ones that they end with. -/
def BordersAgree (msg : List α) : Prop := ∀ idx < msg.length, Restartable msg idx

instance [DecidableEq α] (msg : List α) (idx : ℕ) : Decidable (Restartable msg idx) :=
  inferInstanceAs (Decidable (∀ k < idx, 0 < k → msg.take k <:+ msg.take idx → msg[k]? = msg[idx]?))

instance [DecidableEq α] (msg : List α) : Decidable (BordersAgree msg) :=
  inferInstanceAs (Decidable (∀ idx < msg.length, Restartable msg idx))

/-- A start of the message inside of a longer one would repeat the first element. -/
lemma HeadUnique.restartable (h : HeadUnique msg) (hle : idx ≤ msg.length) : Restartable msg idx := by
  rintro k hlt hk ⟨t, ht⟩
  have htlen := congrArg List.length ht
  rw [List.length_append, List.length_take, List.length_take] at htlen
  have hget : (msg.take idx)[t.length]? = (msg.take k)[0]? := by
    rw [← ht, List.getElem?_append_right (Nat.le_refl _), Nat.sub_self]
  rw [List.getElem?_take_of_lt (by lia), List.getElem?_take_of_lt hk,
    ← List.head?_eq_getElem?, List.getElem?_eq_getElem (by lia : t.length < msg.length)] at hget
  refine absurd hget.symm (h msg[t.length] ?_)
  rw [List.mem_iff_getElem?]
  refine ⟨t.length - 1, ?_⟩
  rw [List.getElem?_tail, Nat.sub_add_cancel (by lia)]
  exact List.getElem?_eq_getElem _

/-- `idx` is the length of the longest start of the message at the end of `seen`. -/
structure Tracks (msg : List α) (idx : ℕ) (seen : List α) : Prop where
  le : idx ≤ msg.length
  suffix : msg.take idx <:+ seen
  longest : ∀ k ≤ msg.length, msg.take k <:+ seen → k ≤ idx

lemma take_succ_suffix (hk : k < msg.length) :
    msg.take (k + 1) <:+ seen ++ [ch] ↔ msg[k]? = some ch ∧ msg.take k <:+ seen := by
  rw [List.take_add_one, List.getElem?_eq_getElem hk, Option.toList_some, List.suffix_concat_iff]
  constructor
  · rintro (hnil | ⟨t, ht, hsuffix⟩)
    · exact absurd hnil (List.append_ne_nil_of_right_ne_nil _ (by simp))
    · obtain ⟨rfl, hch⟩ := List.append_inj' ht rfl
      simp only [List.cons.injEq, and_true] at hch
      exact ⟨congrArg some hch, hsuffix⟩
  · rintro ⟨hch, hsuffix⟩
    rw [Option.some.injEq] at hch
    exact .inr ⟨msg.take k, by rw [hch], hsuffix⟩

namespace Tracks

lemma nil (msg : List α) : Tracks msg 0 [] := by
  refine ⟨Nat.zero_le _, by simp, ?_⟩
  intro k hk hsuffix
  have hlen := congrArg List.length (List.suffix_nil.mp hsuffix)
  rw [List.length_take, List.length_nil] at hlen
  lia

lemma full (msg : List α) : Tracks msg msg.length msg :=
  ⟨Nat.le_refl _, by simp, fun _ hk _ => hk⟩

lemma eq_length_iff (h : Tracks msg idx seen) : idx = msg.length ↔ msg <:+ seen := by
  constructor
  · intro hidx
    have := h.suffix
    rwa [hidx, List.take_length] at this
  · intro hsuffix
    have := h.longest msg.length (Nat.le_refl _) (by rwa [List.take_length])
    exact Nat.le_antisymm h.le this

lemma extend (h : Tracks msg idx seen) (hch : msg[idx]? = some ch) :
    Tracks msg (idx + 1) (seen ++ [ch]) := by
  have hlt : idx < msg.length := (List.getElem?_eq_some_iff.mp hch).1
  refine ⟨hlt, (take_succ_suffix hlt).mpr ⟨hch, h.suffix⟩, ?_⟩
  intro k hk hsuffix
  cases k with
  | zero => exact Nat.zero_le _
  | succ k => exact Nat.succ_le_succ (h.longest k (by lia) ((take_succ_suffix hk).mp hsuffix).2)

lemma restartable (h : Tracks msg idx seen) (hmsg : BordersAgree msg) (hno : ¬msg <:+ seen) :
    Restartable msg idx :=
  hmsg idx (Nat.lt_of_le_of_ne h.le fun heq => hno (h.eq_length_iff.mp heq))

lemma restart [DecidableEq α] (hmsg : Restartable msg idx) (h : Tracks msg idx seen)
    (hch : msg[idx]? ≠ some ch) :
    Tracks msg (if msg.head? = some ch then 1 else 0) (seen ++ [ch]) := by
  -- only the first element alone can stand at the end
  have hlongest : ∀ k ≤ msg.length, msg.take k <:+ seen ++ [ch] →
      k ≤ if msg.head? = some ch then 1 else 0 := by
    intro k hk hsuffix
    cases k with
    | zero => exact Nat.zero_le _
    | succ k =>
      obtain ⟨hget, hseen⟩ := (take_succ_suffix hk).mp hsuffix
      have hle := h.longest k (by lia) hseen
      have hne : k ≠ idx := by
        rintro rfl
        exact hch hget
      cases k with
      | zero => rw [if_pos (List.head?_eq_getElem? ▸ hget)]
      | succ k =>
        have hinner : msg.take (k + 1) <:+ msg.take idx :=
          List.suffix_of_suffix_length_le hseen h.suffix (by
            rw [List.length_take, List.length_take]
            lia)
        exact absurd (hmsg (k + 1) (by lia) (Nat.succ_pos _) hinner ▸ hget) hch
  split
  · rename_i hhead
    have hpos : 0 < msg.length := by
      cases msg with
      | nil => simp at hhead
      | cons a l => simp
    refine ⟨hpos, (take_succ_suffix hpos).mpr ⟨List.head?_eq_getElem? ▸ hhead, by simp⟩, ?_⟩
    simpa [hhead] using hlongest
  · rename_i hhead
    refine ⟨Nat.zero_le _, by simp, ?_⟩
    simpa [hhead] using hlongest

lemma eq_zero {last : List α} (h : Tracks msg idx (seen ++ last))
    (hlast : ∀ k, 0 < k → k ≤ msg.length → ¬msg.take k <:+ last ∧ ¬last <:+ msg.take k) : idx = 0 := by
  by_contra hidx
  obtain ⟨hshort, hlong⟩ := hlast idx (Nat.pos_of_ne_zero hidx) h.le
  rcases List.suffix_or_suffix_of_suffix h.suffix (List.suffix_append seen last) with hle | hle
  · exact hshort hle
  · exact hlong hle

lemma eq_zero_of_notMem (h : Tracks msg idx (seen ++ [ch])) (hch : ch ∉ msg) : idx = 0 := by
  refine h.eq_zero fun k hk hle => ⟨fun hsuffix => ?_, fun hsuffix => ?_⟩
  · have hmem : ∀ a ∈ msg.take k, a = ch := fun a ha => by simpa using hsuffix.subset ha
    cases msg with
    | nil => simp at hle; omega
    | cons a l =>
      have ha := hmem a (by cases k with | zero => omega | succ k => simp)
      exact hch (by simp [ha])
  · exact hch (List.mem_of_mem_take (hsuffix.subset (by simp)))

end Tracks

/-- The first of the messages in the stream stands behind `text`. -/
structure FirstOf (msgs : List (List α)) (stream text msg : List α) : Prop where
  mem : msg ∈ msgs
  pre : text ++ msg <+: stream
  first : ∀ text' msg', msg' ∈ msgs → text' ++ msg' <+: stream →
    (text ++ msg).length ≤ (text' ++ msg').length

namespace FirstOf

variable {msgs : List (List α)} {stream text text' msg' : List α}

lemma unique (hmsgs : ∀ a ∈ msgs, ∀ b ∈ msgs, a <:+ b → a = b) (h : FirstOf msgs stream text msg)
    (h' : FirstOf msgs stream text' msg') : text = text' ∧ msg = msg' := by
  have hlen := Nat.le_antisymm (h.first _ _ h'.mem h'.pre) (h'.first _ _ h.mem h.pre)
  have heq : text ++ msg = text' ++ msg' :=
    (List.prefix_of_prefix_length_le h.pre h'.pre hlen.le).eq_of_length hlen
  have hmsg : msg = msg' := by
    rcases List.suffix_or_suffix_of_suffix (heq ▸ List.suffix_append text msg)
      (List.suffix_append text' msg') with hle | hle
    · exact hmsgs _ h.mem _ h'.mem hle
    · exact (hmsgs _ h'.mem _ h.mem hle).symm
  subst hmsg
  exact ⟨List.append_cancel_right heq, rfl⟩

lemma mono {stream' : List α} (h : FirstOf msgs stream text msg) (hpre : stream <+: stream') :
    FirstOf msgs stream' text msg := by
  refine ⟨h.mem, h.pre.trans hpre, fun text' msg' hmem' hpre' => ?_⟩
  by_contra hlt
  -- a shorter one would lie in the front of the stream
  have hshort := List.prefix_of_prefix_length_le hpre' (h.pre.trans hpre) (Nat.not_le.mp hlt).le
  exact hlt (h.first _ _ hmem' (hshort.trans h.pre))

lemma of_miss (hmem : msg ∈ msgs) (hpre : text ++ msg <+: stream)
    (hmiss : ∀ n < (text ++ msg).length, ∀ msg ∈ msgs, ¬msg <:+ stream.take n) :
    FirstOf msgs stream text msg := by
  refine ⟨hmem, hpre, fun text' msg' hmem' hpre' => ?_⟩
  by_contra hlt
  rw [List.prefix_iff_eq_take] at hpre'
  exact hmiss _ (Nat.not_le.mp hlt) msg' hmem' (hpre' ▸ List.suffix_append text' msg')

end FirstOf

end PrefixMatcher
