import Mathlib.Data.List.Infix
import ChatGateway.Text.Lowercase

/-!
# Containment in lower case

A text that stands in another one need not stand there any more once both are in lower case: a
capital sigma that closes the one may be followed by more letters in the other, or the other way
round, and is then written differently. Nothing else can get in the way. The stretch of a text that
`s` makes up has the lower-case form of `s` exactly if every capital sigma in it closes a word in
both or in neither (`formFrom_eq_lowerFrom_iff`), in particular if there is none in `s`.
-/

namespace ChatGateway.Text

variable {before after left right s : List Char} {c : Char}

/-! ## The form of a stretch -/

/-- A capital sigma between the two stretches closes a word. -/
def closesWord (before after : List Char) : Bool :=
  meetsCased before.reverse && !meetsCased after

theorem lowerBetween_sigma (before after : List Char) :
    lowerBetween before 'Σ' after = if closesWord before.reverse after then ['ς'] else ['σ'] := by
  rw [lowerBetween, if_pos rfl, closesWord, List.reverse_reverse]

theorem lowerBetween_of_ne (hc : c ≠ 'Σ') (before after : List Char) :
    lowerBetween before c after = lowerChar c :=
  if_neg hc

/-- The neighbours of a character do not change the length of its form. -/
theorem length_lowerBetween (c : Char) (before after before' after' : List Char) :
    (lowerBetween before c after).length = (lowerBetween before' c after').length := by
  by_cases hc : c = 'Σ'
  · subst hc
    simp only [lowerBetween_sigma]
    split <;> split <;> rfl
  · rw [lowerBetween_of_ne hc, lowerBetween_of_ne hc]

theorem lowerBetween_eq_iff (c : Char) (before after before' after' : List Char) :
    lowerBetween before c after = lowerBetween before' c after' ↔
      (c = 'Σ' → closesWord before.reverse after = closesWord before'.reverse after') := by
  by_cases hc : c = 'Σ'
  · subst hc
    simp only [lowerBetween_sigma, true_implies]
    split <;> split <;> simp_all
  · simp [lowerBetween_of_ne hc, hc]

/-- The form of the stretch `s` between what stands before it, nearest first, and after it. -/
def formFrom (before : List Char) : List Char → List Char → List Char
  | [], _ => []
  | c :: rest, after => lowerBetween before c (rest ++ after) ++ formFrom (c :: before) rest after

/-- A text is put in lower case stretch by stretch. -/
theorem lowerFrom_append (before s after : List Char) :
    lowerFrom before (s ++ after) =
      formFrom before s after ++ lowerFrom (s.reverse ++ before) after := by
  induction s generalizing before with
  | nil => rfl
  | cons c rest ih =>
    rw [List.cons_append, lowerFrom, ih, formFrom, List.reverse_cons, List.append_assoc,
      List.append_assoc, List.singleton_append]

theorem lowerFrom_eq_formFrom (before s : List Char) :
    lowerFrom before s = formFrom before s [] := by
  have h := lowerFrom_append before s []
  rwa [List.append_nil, lowerFrom, List.append_nil] at h

/-- The form of a stretch depends on where it stands only through its capital sigmas. -/
theorem formFrom_eq_iff (before before' s after after' : List Char) :
    formFrom before s after = formFrom before' s after' ↔
      ∀ left right, s = left ++ 'Σ' :: right →
        closesWord (before.reverse ++ left) (right ++ after) =
          closesWord (before'.reverse ++ left) (right ++ after') := by
  induction s generalizing before before' with
  | nil => simp [formFrom]
  | cons c rest ih =>
    have hsplit : formFrom before (c :: rest) after = formFrom before' (c :: rest) after' ↔
        lowerBetween before c (rest ++ after) = lowerBetween before' c (rest ++ after') ∧
          formFrom (c :: before) rest after = formFrom (c :: before') rest after' :=
      ⟨fun h => List.append_inj h (length_lowerBetween _ _ _ _ _), fun h => by
        rw [formFrom, formFrom, h.1, h.2]⟩
    rw [hsplit, lowerBetween_eq_iff, ih]
    constructor
    · rintro ⟨hhead, hrest⟩ (_ | ⟨d, left⟩) right heq
      · obtain ⟨rfl, rfl⟩ := List.cons.inj heq
        simpa using hhead rfl
      · obtain ⟨rfl, rfl⟩ := List.cons.inj heq
        simpa using hrest left right rfl
    · intro h
      refine ⟨fun hc => ?_, fun left right heq => ?_⟩
      · simpa using h [] rest (by rw [hc, List.nil_append])
      · simpa using h (c :: left) right (by rw [heq, List.cons_append])

/-! ## Where a text stands in another one -/

/-- The capital sigmas of `s` close a word between `before` and `after` exactly where they do in `s`
alone. -/
def SigmasStay (before s after : List Char) : Prop :=
  ∀ left right, s = left ++ 'Σ' :: right →
    closesWord (before ++ left) (right ++ after) = closesWord left right

/-- **In lower case a stretch of a text is what it is on its own** exactly if its sigmas stay what
they are. -/
theorem formFrom_eq_lowerFrom_iff (before s after : List Char) :
    formFrom before.reverse s after = lowerFrom [] s ↔ SigmasStay before s after := by
  rw [lowerFrom_eq_formFrom, formFrom_eq_iff]
  simp [SigmasStay]

theorem sigmasStay_of_not_mem (h : 'Σ' ∉ s) : SigmasStay before s after := by
  rintro left right rfl
  simp at h

/-- `needle` stands in `text`, character for character, where its sigmas stay what they are. -/
def StandsIn (needle text : String) : Prop :=
  ∃ before after, text.toList = before ++ needle.toList ++ after ∧
    SigmasStay before needle.toList after

/-- What stands in a text stands there in lower case too. -/
theorem StandsIn.lowercase_infix {needle text : String} (h : StandsIn needle text) :
    lowercase needle <:+: lowercase text := by
  obtain ⟨before, after, htext, hstay⟩ := h
  have hform := (formFrom_eq_lowerFrom_iff before needle.toList after).2 hstay
  have hlower : lowercase text = formFrom [] before (needle.toList ++ after) ++
      (lowercase needle ++ lowerFrom (needle.toList.reverse ++ before.reverse) after) := by
    calc lowercase text
        = lowerFrom [] (before ++ (needle.toList ++ after)) := by
          rw [lowercase, htext, List.append_assoc]
      _ = formFrom [] before (needle.toList ++ after) ++
            lowerFrom before.reverse (needle.toList ++ after) := by
          rw [lowerFrom_append, List.append_nil]
      _ = _ := by rw [lowerFrom_append, hform, lowercase]
  rw [hlower, ← List.append_assoc]
  exact List.infix_append _ _ _

/-- A text without a capital sigma stands in every text that contains it. -/
theorem standsIn_of_contained {needle text : String} (h : needle.toList <:+: text.toList)
    (hsigma : 'Σ' ∉ needle.toList) : StandsIn needle text := by
  obtain ⟨before, after, htext⟩ := h
  exact ⟨before, after, htext.symm, sigmasStay_of_not_mem hsigma⟩

end ChatGateway.Text
