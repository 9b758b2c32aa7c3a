import Mathlib.Data.List.TakeWhile
import ChatGateway.Config.Placeholder

/-!
# How placeholders are written

The grammar of placeholders: two opening braces, a key, a bar and a default in quotes where there is
one, and two closing braces, with white space around each part (`Placeholder.Written`). What is
written by it at the front of a text is what is found there (`placeholder?_eq_some_iff`), so nothing
can be read as a placeholder in two ways.
-/

namespace ChatGateway.Config

open Text

/-! ## The grammar -/

/-- Nothing but white space. -/
def Blank (cs : List Char) : Prop := ∀ c ∈ cs, isBlank c = true

/-- A text that may be the key of a placeholder. -/
def IsKey (cs : List Char) : Prop := cs ≠ [] ∧ ∀ c ∈ cs, isKeyChar c = true

/-- The two braces before a placeholder. -/
def openingBraces : List Char := ['\x7b', '\x7b']

/-- The two braces after a placeholder. -/
def closingBraces : List Char := ['\x7d', '\x7d']

/-- What stands before the text of a default, after the bar and white space. -/
def beforeFallback : List Char := ['d', 'e', 'f', 'a', 'u', 'l', 't', '(', '"']

/-- What stands after the text of a default. -/
def afterFallback : List Char := ['"', ')']

/-- How a default is written, and that nothing is written where there is none. -/
inductive WrittenFallback : Option (List Char) → List Char → Prop
  | absent : WrittenFallback none []
  | quoted {gap text : List Char} : Blank gap → '"' ∉ text →
    WrittenFallback (some text) ('|' :: gap ++ beforeFallback ++ text ++ afterFallback)

/-- How a placeholder is written: its key and its default between braces, with white space around
each of them. -/
inductive Placeholder.Written : Placeholder → List Char → Prop
  | intro {key before between fallback after : List Char} {text : Option (List Char)} :
    IsKey key → Blank before → Blank between → WrittenFallback text fallback → Blank after →
    Written ⟨key, text⟩
      (openingBraces ++ before ++ key ++ between ++ fallback ++ after ++ closingBraces)

variable {cs gap key text after tail : List Char} {p : Placeholder} {c : Char}

/-! ## What is found at the front of a text -/

theorem bounds_of_isKeyChar (h : isKeyChar c = true) : 0x2E ≤ c.toNat ∧ c.toNat ≤ 0x7A := by
  -- the letters of either case, the digits, and two characters by themselves
  change (decide ('A'.val ≤ c.val ∧ c.val ≤ 'Z'.val) ||
    (decide ('a'.val ≤ c.val) && decide (c.val ≤ 'z'.val)) ||
    (decide ('0'.val ≤ c.val) && decide (c.val ≤ '9'.val)) || c = '_' || c = '.') = true at h
  simp only [Bool.or_eq_true, Bool.and_eq_true, decide_eq_true_eq, UInt32.le_iff_toNat_le] at h
  change ((((65 ≤ c.toNat ∧ c.toNat ≤ 90) ∨ (97 ≤ c.toNat ∧ c.toNat ≤ 122)) ∨
    (48 ≤ c.toNat ∧ c.toNat ≤ 57)) ∨ c = '_') ∨ c = '.' at h
  rcases h with (((h | h) | h) | rfl) | rfl
  · omega
  · omega
  · omega
  · decide
  · decide

theorem not_isBlank_of_isKeyChar (h : isKeyChar c = true) : isBlank c = false := by
  obtain ⟨low, high⟩ := bounds_of_isKeyChar h
  simp only [isBlank, Ranges.covers, blankRanges, List.any_cons, List.any_nil, Bool.or_false,
    Bool.or_eq_false_iff, Bool.and_eq_false_iff, decide_eq_false_iff_not]
  omega

theorem not_isKeyChar_of_isBlank (h : isBlank c = true) : isKeyChar c = false := by
  cases hkey : isKeyChar c with
  | false => rfl
  | true =>
    rw [not_isBlank_of_isKeyChar hkey] at h
    cases h

/-- A text is white space and what is left once that is passed over. -/
theorem exists_blank (cs : List Char) :
    ∃ gap rest, Blank gap ∧ cs.dropWhile isBlank = rest ∧ cs = gap ++ rest :=
  ⟨cs.takeWhile isBlank, cs.dropWhile isBlank, fun _ hc => List.mem_takeWhile_imp hc, rfl,
    List.takeWhile_append_dropWhile.symm⟩

/-- A text is characters of a key and what is left after them. -/
theorem exists_keyChars (cs : List Char) :
    ∃ word rest, (∀ c ∈ word, isKeyChar c = true) ∧ cs.takeWhile isKeyChar = word ∧
      cs.dropWhile isKeyChar = rest ∧ cs = word ++ rest :=
  ⟨cs.takeWhile isKeyChar, cs.dropWhile isKeyChar, fun _ hc => List.mem_takeWhile_imp hc, rfl, rfl,
    List.takeWhile_append_dropWhile.symm⟩

/-- White space is passed over. -/
theorem Blank.dropWhile_append (h : Blank gap) (cs : List Char) :
    (gap ++ cs).dropWhile isBlank = cs.dropWhile isBlank :=
  List.dropWhile_append_of_pos h

theorem closing?_eq_some_iff :
    closing? cs = some after ↔ ∃ gap, Blank gap ∧ cs = gap ++ closingBraces ++ after := by
  constructor
  · intro h
    obtain ⟨gap, rest, hgap, hdrop, rfl⟩ := exists_blank cs
    rw [closing?, hdrop] at h
    split at h
    · obtain rfl := Option.some.inj h
      exact ⟨gap, hgap, by simp [closingBraces]⟩
    · cases h
  · rintro ⟨gap, hgap, rfl⟩
    have hdrop : (gap ++ closingBraces ++ after).dropWhile isBlank = closingBraces ++ after := by
      rw [List.append_assoc, hgap.dropWhile_append]
      rfl
    rw [closing?, hdrop]
    rfl

theorem fallback?_eq_some_iff :
    fallback? cs = some (text, after) ↔ ∃ w, WrittenFallback (some text) w ∧ cs = w ++ after := by
  constructor
  · intro h
    unfold fallback? at h
    split at h
    · rename_i cs
      obtain ⟨gap, rest, hgap, hdrop, rfl⟩ := exists_blank cs
      rw [hdrop] at h
      split at h
      · rename_i inner
        have hinner := List.takeWhile_append_dropWhile (p := (· != '"')) (l := inner)
        split at h
        · rename_i out hout
          obtain ⟨rfl, rfl⟩ := Prod.mk.inj (Option.some.inj h)
          rw [hout] at hinner
          refine ⟨_, .quoted hgap fun hmem => ?_, ?_⟩
          · simpa using List.mem_takeWhile_imp hmem
          · simp [beforeFallback, afterFallback, hinner]
        · cases h
      · cases h
    · cases h
  · rintro ⟨w, hw, rfl⟩
    cases hw with
    | @quoted gap text hgap htext =>
      have hword : (gap ++ (beforeFallback ++ (text ++ (afterFallback ++ after)))).dropWhile
          isBlank = beforeFallback ++ (text ++ (afterFallback ++ after)) := by
        rw [hgap.dropWhile_append]
        rfl
      have hquote : ∀ c ∈ text, (c != '"') = true := by
        intro c hc
        have hne : c ≠ '"' := fun heq => htext (heq ▸ hc)
        simpa using hne
      have hdrop : (text ++ (afterFallback ++ after)).dropWhile (· != '"') =
          afterFallback ++ after := by
        rw [List.dropWhile_append_of_pos hquote]
        rfl
      have htake : (text ++ (afterFallback ++ after)).takeWhile (· != '"') = text := by
        rw [List.takeWhile_append_of_pos hquote]
        simp [afterFallback]
      simp only [List.cons_append, List.append_assoc, fallback?, hword]
      simp only [beforeFallback, List.cons_append, List.nil_append, hdrop, htake]
      simp only [afterFallback, List.cons_append, List.nil_append]

/-- A key ends where something follows that is not of a key. -/
theorem IsKey.split (hkey : IsKey key) (hstop : ∀ c ∈ tail.head?, isKeyChar c = false) :
    (key ++ tail).dropWhile isBlank = key ++ tail ∧ (key ++ tail).takeWhile isKeyChar = key ∧
      (key ++ tail).dropWhile isKeyChar = tail := by
  obtain ⟨hne, hchars⟩ := hkey
  refine ⟨?_, ?_, ?_⟩
  · obtain ⟨c, rest, rfl⟩ := List.exists_cons_of_ne_nil hne
    have hc := not_isBlank_of_isKeyChar (hchars c List.mem_cons_self)
    simp [hc]
  · rw [List.takeWhile_append_of_pos hchars]
    cases tail with
    | nil => simp
    | cons c tail => simp [hstop c rfl]
  · rw [List.dropWhile_append_of_pos hchars]
    cases tail with
    | nil => rfl
    | cons c tail => simp [hstop c rfl]

/-- What follows the key of a placeholder is not of a key. -/
theorem WrittenFallback.stops {between fallback : List Char} {text : Option (List Char)}
    (hfallback : WrittenFallback text fallback) (hbetween : Blank between) (hgap : Blank gap)
    (after : List Char) :
    ∀ c ∈ (between ++ (fallback ++ (gap ++ (closingBraces ++ after)))).head?,
      isKeyChar c = false := by
  intro c hc
  cases between with
  | cons b between =>
    obtain rfl : b = c := by simpa using hc
    exact not_isKeyChar_of_isBlank (hbetween b List.mem_cons_self)
  | nil =>
    cases hfallback with
    | quoted _ _ =>
      obtain rfl : '|' = c := by simpa using hc
      decide
    | absent =>
      cases gap with
      | cons b gap =>
        obtain rfl : b = c := by simpa using hc
        exact not_isKeyChar_of_isBlank (hgap b List.mem_cons_self)
      | nil =>
        obtain rfl : '\x7d' = c := by simpa [closingBraces] using hc
        decide

/-- What is found at the front of a text is written there. -/
theorem written_of_placeholder? (h : placeholder? cs = some (p, after)) :
    ∃ w, p.Written w ∧ cs = w ++ after := by
  unfold placeholder? at h
  split at h
  · rename_i cs
    obtain ⟨before, inner, hbefore, hinner, rfl⟩ := exists_blank cs
    obtain ⟨key, more, hkey, htake, hdrop, rfl⟩ := exists_keyChars inner
    obtain ⟨between, rest, hbetween, hrest, rfl⟩ := exists_blank more
    simp only [placeholderBody?, hinner, htake, hdrop, hrest, List.isEmpty_iff] at h
    split at h
    · cases h
    · rename_i hne
      have hwritten : ∃ w gap, WrittenFallback p.fallback w ∧ Blank gap ∧ p.key = key ∧
          rest = w ++ (gap ++ closingBraces ++ after) := by
        cases hf : fallback? rest with
        | none =>
          rw [hf] at h
          obtain ⟨_, hout, heq⟩ := Option.map_eq_some_iff.1 h
          obtain ⟨rfl, rfl⟩ := Prod.mk.inj heq
          obtain ⟨gap, hgap, rfl⟩ := closing?_eq_some_iff.1 hout
          exact ⟨[], gap, .absent, hgap, rfl, rfl⟩
        | some found =>
          obtain ⟨w, hw, hsplit⟩ := fallback?_eq_some_iff.1 hf
          rw [hf] at h
          obtain ⟨_, hout, heq⟩ := Option.map_eq_some_iff.1 h
          obtain ⟨rfl, rfl⟩ := Prod.mk.inj heq
          obtain ⟨gap, hgap, hrest⟩ := closing?_eq_some_iff.1 hout
          exact ⟨w, gap, hw, hgap, rfl, hrest ▸ hsplit⟩
      obtain ⟨w, gap, hw, hgap, rfl, rfl⟩ := hwritten
      exact ⟨_, .intro ⟨hne, hkey⟩ hbefore hbetween hw hgap, by simp [openingBraces]⟩
  · cases h

/-- What is written at the front of a text is found there, whatever follows. -/
theorem placeholder?_of_written {w : List Char} (hw : p.Written w) (after : List Char) :
    placeholder? (w ++ after) = some (p, after) := by
  cases hw with
  | @intro key before between fallback gap text hkey hbefore hbetween hfallback hgap =>
    obtain ⟨hinner, htake, hdrop⟩ := hkey.split (hfallback.stops hbetween hgap after)
    have hclosing : closing? (gap ++ (closingBraces ++ after)) = some after :=
      closing?_eq_some_iff.2 ⟨gap, hgap, by simp⟩
    simp only [openingBraces, List.cons_append, List.nil_append, List.append_assoc,
      placeholder?, placeholderBody?, hbefore.dropWhile_append, hinner, htake, hdrop,
      hbetween.dropWhile_append, List.isEmpty_iff, if_neg hkey.1]
    cases hfallback with
    | absent =>
      have hbraces : (gap ++ (closingBraces ++ after)).dropWhile isBlank =
          closingBraces ++ after := by
        rw [hgap.dropWhile_append]
        rfl
      rw [List.nil_append, hbraces]
      rfl
    | quoted hinside hquote =>
      have hbar : fallback? (_ ++ (gap ++ (closingBraces ++ after))) = some (_, _) :=
        fallback?_eq_some_iff.2 ⟨_, .quoted hinside hquote, rfl⟩
      simp only [List.cons_append] at hbar ⊢
      rw [List.dropWhile_cons_of_neg (by decide), hbar]
      simp only [hclosing]
      rfl

/-- **A placeholder is found at the front of a text exactly if it is written there.** -/
theorem placeholder?_eq_some_iff :
    placeholder? cs = some (p, after) ↔ ∃ w, p.Written w ∧ cs = w ++ after := by
  refine ⟨written_of_placeholder?, ?_⟩
  rintro ⟨w, hw, rfl⟩
  exact placeholder?_of_written hw after

end ChatGateway.Config
