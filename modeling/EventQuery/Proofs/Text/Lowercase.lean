import EventQuery.Text.Lowercase
import Mathlib.Logic.Basic
import Mathlib.Tactic.Lemma
import Mathlib.Tactic.SplitIfs

/-!
Lower case of the parts of a text.

All letters but one have their lower-case form wherever they stand. A capital sigma has
two forms, so a part of a text may be another text in lower case when it stands alone.

* `endsWord`: a capital sigma between two texts takes its final form.
* `lowerBetween`: the lower-case form of a part in its place; `lowercase_parts`: that of a
  text is that of its parts in their places.
* `KeepsSigmas`: the sigmas of a part have the same form in its place as alone.
  `lowerBetween_eq_lowercase_iff`: these are the parts that are in lower case what they are
  alone; `KeepsSigmas.of_not_mem`, `KeepsSigmas.of_words`: parts without sigmas, and whole
  words.
* `lowercase_eq_of_map_toLower_eq`: the case of ASCII letters does not matter.
-/

namespace EventQuery

/-! ### Sigmas -/

/-- A capital sigma between these texts takes its final form. The text in front is given in
reverse. -/
def endsWord (before rest : List Char) : Bool := startsCased before && !startsCased rest

/-- The lower-case form of a character between these texts. -/
def lowerAt (before : List Char) (c : Char) (rest : List Char) : List Char :=
  if c = '\u03a3' then [if endsWord before rest then '\u03c2' else '\u03c3'] else lowerChar c

lemma lowerAfter_cons (before : List Char) (c : Char) (rest : List Char) :
    lowerAfter before (c :: rest) = lowerAt before c rest ++ lowerAfter (c :: before) rest := rfl

lemma length_lowerAt (before before' : List Char) (c : Char) (rest rest' : List Char) :
    (lowerAt before c rest).length = (lowerAt before' c rest').length := by
  rw [lowerAt, lowerAt]
  split_ifs <;> rfl

/-- Only the form of a sigma depends on the place. -/
lemma lowerAt_eq_iff {before before' : List Char} {c : Char} {rest rest' : List Char} :
    lowerAt before c rest = lowerAt before' c rest' ↔
      (c = '\u03a3' → endsWord before rest = endsWord before' rest') := by
  rw [lowerAt, lowerAt]
  by_cases hc : c = '\u03a3'
  · rw [if_pos hc, if_pos hc]
    cases endsWord before rest <;> cases endsWord before' rest' <;> simp [hc]
  · simp [hc]

/-! ### Parts in their places -/

/-- The lower-case form of a part of a text, between what is in front of it, in reverse, and
what follows. -/
def lowerBetween (before : List Char) : List Char → List Char → List Char
  | [], _ => []
  | c :: part, after => lowerAt before c (part ++ after) ++ lowerBetween (c :: before) part after

lemma lowerAfter_append (before part after : List Char) :
    lowerAfter before (part ++ after)
      = lowerBetween before part after ++ lowerAfter (part.reverse ++ before) after := by
  induction part generalizing before with
  | nil => rfl
  | cons c part ih =>
      rw [List.cons_append, lowerAfter_cons, ih, lowerBetween, List.append_assoc,
        List.reverse_cons, List.append_assoc, List.singleton_append]

/-- A text that stands alone has nothing around it. -/
lemma lowerBetween_nil (part : List Char) : lowerBetween [] part [] = lowercase part := by
  have happend := lowerAfter_append [] part []
  rw [List.append_nil] at happend
  rw [lowercase, happend, lowerAfter, List.append_nil]

/-- **A text in lower case** is each of its parts in lower case, in their places. -/
lemma lowercase_parts (front part back : List Char) :
    lowercase (front ++ part ++ back)
      = lowerBetween [] front (part ++ back) ++ lowerBetween front.reverse part back ++
        lowerAfter (part.reverse ++ front.reverse) back := by
  rw [lowercase, List.append_assoc, lowerAfter_append, lowerAfter_append, List.append_nil,
    List.append_assoc]

/-- A part is the same in lower case in two places if its sigmas are. -/
lemma lowerBetween_eq_iff {before before' part after after' : List Char} :
    lowerBetween before part after = lowerBetween before' part after' ↔
      ∀ a b, part = a ++ '\u03a3' :: b → endsWord (a.reverse ++ before) (b ++ after)
        = endsWord (a.reverse ++ before') (b ++ after') := by
  induction part generalizing before before' with
  | nil => simp [lowerBetween]
  | cons c part ih =>
      rw [lowerBetween, lowerBetween]
      constructor
      · intro h a b hsplit
        obtain ⟨hhead, htail⟩ := List.append_inj h (length_lowerAt _ _ _ _ _)
        rcases List.cons_eq_append_iff.mp hsplit with ⟨rfl, hcons⟩ | ⟨a', rfl, hpart⟩
        · obtain ⟨hc, rfl⟩ := List.cons.inj hcons
          exact lowerAt_eq_iff.mp hhead hc.symm
        · simpa using ih.mp htail a' b hpart
      · intro h
        have hhead : lowerAt before c (part ++ after) = lowerAt before' c (part ++ after') := by
          refine lowerAt_eq_iff.mpr ?_
          rintro rfl
          exact h [] part rfl
        have htail : lowerBetween (c :: before) part after
            = lowerBetween (c :: before') part after' := by
          refine ih.mpr fun a b hpart => ?_
          simpa using h (c :: a) b (by rw [hpart, List.cons_append])
        rw [hhead, htail]

/-! ### Parts that keep their sigmas -/

/-- The sigmas of a part of a text have the same form in its place as where it stands
alone. -/
def KeepsSigmas (front part back : List Char) : Prop :=
  ∀ a b, part = a ++ '\u03a3' :: b →
    endsWord (a.reverse ++ front.reverse) (b ++ back) = endsWord a.reverse b

/-- **The parts that keep their sigmas** are those that are in lower case what they are
alone. -/
lemma lowerBetween_eq_lowercase_iff {front part back : List Char} :
    lowerBetween front.reverse part back = lowercase part ↔ KeepsSigmas front part back := by
  rw [← lowerBetween_nil, lowerBetween_eq_iff, KeepsSigmas]
  simp only [List.append_nil]

/-- A character that is passed over is not looked at. -/
lemma startsCased_cons (c : Char) (cs : List Char) :
    startsCased (c :: cs) = if isCaseIgnorable c then startsCased cs else isCased c := by
  cases hc : isCaseIgnorable c <;> simp [startsCased, hc]

/-- Where no letter follows, it does not matter what follows. -/
lemma startsCased_append_of_eq_false {ds : List Char} (h : startsCased ds = false)
    (cs : List Char) : startsCased (cs ++ ds) = startsCased cs := by
  induction cs with
  | nil => exact h
  | cons c cs ih => rw [List.cons_append, startsCased_cons, startsCased_cons, ih]

namespace KeepsSigmas

variable {front part back : List Char}

lemma of_not_mem (h : '\u03a3' ∉ part) : KeepsSigmas front part back := by
  rintro a b rfl
  exact absurd (List.mem_append_right a List.mem_cons_self) h

/-- Whole words keep their sigmas. -/
lemma of_words (hfront : startsCased front.reverse = false) (hback : startsCased back = false) :
    KeepsSigmas front part back := by
  intro a b _
  rw [endsWord, endsWord, startsCased_append_of_eq_false hfront,
    startsCased_append_of_eq_false hback]

end KeepsSigmas

/-! ### Case of ASCII letters -/

lemma toNat_of_isUpper {c : Char} (h : c.isUpper = true) : 65 ≤ c.toNat ∧ c.toNat ≤ 90 :=
  of_decide_eq_true h

lemma toNat_of_isAlpha {c : Char} (h : c.isAlpha = true) :
    (65 ≤ c.toNat ∧ c.toNat ≤ 90) ∨ (97 ≤ c.toNat ∧ c.toNat ≤ 122) := by
  rcases (Bool.or_eq_true _ _).mp h with hupper | hlower
  · exact .inl (toNat_of_isUpper hupper)
  · obtain ⟨hlow, hhigh⟩ := (Bool.and_eq_true _ _).mp hlower
    exact .inr ⟨of_decide_eq_true hlow, of_decide_eq_true hhigh⟩

/-- Only a capital letter is another one in lower case. -/
lemma toLower_of_not_isUpper {c : Char} (h : ¬ c.isUpper = true) : c.toLower = c :=
  dif_neg fun hupper => h (decide_eq_true hupper)

/-- What is the same for the capital letters of ASCII and their lower-case forms does not see
the case of ASCII letters. -/
lemma apply_toLower {α : Type} [DecidableEq α] (f : Char → α)
    (h : ((List.range 26).all fun k => f (Char.ofNat (97 + k)) = f (Char.ofNat (65 + k))) = true)
    (c : Char) : f c.toLower = f c := by
  by_cases hc : c.isUpper = true
  · have hrange := toNat_of_isUpper hc
    have hk := List.all_eq_true.mp h (c.toNat - 65) (List.mem_range.mpr (by omega))
    have hupper : Char.ofNat (65 + (c.toNat - 65)) = c := by
      rw [Nat.add_sub_cancel' hrange.1, Char.ofNat_toNat]
    have hlower : c.toLower.toNat = 32 + c.toNat := by
      have hval : c.toLower.toNat = (c.val + ('a'.val - 'A'.val)).toNat :=
        congrArg Char.toNat (dif_pos (of_decide_eq_true hc))
      have hstep : ('a'.val - 'A'.val).toNat = 32 := by decide
      have hvalue : c.val.toNat + 32 < 4294967296 := show c.toNat + 32 < _ by omega
      rw [hval, UInt32.toNat_add, hstep, Nat.mod_eq_of_lt hvalue, Nat.add_comm]
      rfl
    have hplace : 97 + (c.toNat - 65) = c.toLower.toNat := by omega
    rw [decide_eq_true_eq, hupper, hplace, Char.ofNat_toNat] at hk
    exact hk
  · rw [toLower_of_not_isUpper hc]

lemma lowerChar_toLower (c : Char) : lowerChar c.toLower = lowerChar c :=
  apply_toLower lowerChar (by decide +kernel) c

lemma isCased_toLower (c : Char) : isCased c.toLower = isCased c :=
  apply_toLower isCased (by decide +kernel) c

lemma toLower_eq_sigma_iff (c : Char) : c.toLower = '\u03a3' ↔ c = '\u03a3' :=
  decide_eq_decide.mp (apply_toLower (fun c => decide (c = '\u03a3')) (by decide +kernel) c)

/-- No letter of ASCII is passed over. -/
lemma isCaseIgnorable_of_isAlpha {c : Char} (h : c.isAlpha = true) : isCaseIgnorable c = false := by
  have hscan : (ignorableRanges.all fun r => r.2 < 65 || 90 < r.1 && r.2 < 97 || 122 < r.1)
      = true := by decide +kernel
  have hrange := toNat_of_isAlpha h
  rw [isCaseIgnorable, inRanges, List.any_eq_false]
  intro r hr
  have hout := List.all_eq_true.mp hscan r hr
  simp only [Bool.or_eq_true, Bool.and_eq_true, decide_eq_true_eq] at hout ⊢
  omega

lemma isCaseIgnorable_toLower (c : Char) : isCaseIgnorable c.toLower = isCaseIgnorable c := by
  by_cases hc : c.isAlpha = true
  · have hlower : c.toLower.isAlpha = c.isAlpha := apply_toLower Char.isAlpha (by decide +kernel) c
    rw [isCaseIgnorable_of_isAlpha hc, isCaseIgnorable_of_isAlpha (hlower.trans hc)]
  · rw [toLower_of_not_isUpper fun hupper => hc ((Bool.or_eq_true _ _).mpr (.inl hupper))]

lemma startsCased_map_toLower (cs : List Char) :
    startsCased (cs.map Char.toLower) = startsCased cs := by
  induction cs with
  | nil => rfl
  | cons c cs ih =>
      rw [List.map_cons, startsCased_cons, startsCased_cons, isCaseIgnorable_toLower,
        isCased_toLower, ih]

lemma lowerAt_map_toLower (before : List Char) (c : Char) (rest : List Char) :
    lowerAt (before.map Char.toLower) c.toLower (rest.map Char.toLower)
      = lowerAt before c rest := by
  simp only [lowerAt, endsWord, startsCased_map_toLower, lowerChar_toLower]
  exact if_congr (toLower_eq_sigma_iff c) rfl rfl

lemma lowerAfter_map_toLower (before cs : List Char) :
    lowerAfter (before.map Char.toLower) (cs.map Char.toLower) = lowerAfter before cs := by
  induction cs generalizing before with
  | nil => rfl
  | cons c cs ih =>
      rw [List.map_cons, lowerAfter_cons, lowerAfter_cons, lowerAt_map_toLower, ← List.map_cons, ih]

/-- **Texts that differ in the case of ASCII letters** are the same in lower case. -/
lemma lowercase_eq_of_map_toLower_eq {cs ds : List Char}
    (h : cs.map Char.toLower = ds.map Char.toLower) : lowercase cs = lowercase ds := by
  have hmap (es : List Char) : lowercase (es.map Char.toLower) = lowercase es :=
    lowerAfter_map_toLower [] es
  rw [← hmap cs, h, hmap ds]

end EventQuery
