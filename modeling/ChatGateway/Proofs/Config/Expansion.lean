import Mathlib.Tactic.Choose
import ChatGateway.Proofs.Config.Grammar

/-!
# What becomes of a line

To read a line is to find the placeholders that are written in it, leftmost first and without
overlap, with the text between them (`Reading`). Every line is read in one way (`exists_reading`,
`Reading.unique`). A line is expanded by putting the value of each placeholder in its place; all
else stays as it is, and what was put in is not looked at again. A line with a placeholder that has
no value cannot be expanded, and the error is that of the first of them (`expandLine_exact`).
-/

namespace ChatGateway.Config

/-! ## Readings -/

/-- A placeholder that is written in a line, with the text between it and the one before it. -/
structure Occurrence where
  gap : List Char
  written : List Char
  placeholder : Placeholder

/-- A placeholder is written at the front of the text. -/
def Begins (cs : List Char) : Prop :=
  ∃ (p : Placeholder) (w rest : List Char), p.Written w ∧ cs = w ++ rest

/-- The placeholders that are written in a line, each of them the leftmost one after the one before
it, and the text after the last of them. -/
inductive Reading : List Char → List Occurrence → List Char → Prop
  | last {tail : List Char} : (∀ front cs, tail = front ++ cs → ¬Begins cs) → Reading tail [] tail
  | next {gap w line tail : List Char} {p : Placeholder} {os : List Occurrence} :
    p.Written w → (∀ front cs, gap = front ++ cs → cs ≠ [] → ¬Begins (cs ++ (w ++ line))) →
    Reading line os tail → Reading (gap ++ (w ++ line)) (⟨gap, w, p⟩ :: os) tail

/-- The text around some occurrences, with something in the place of each of them. -/
def withValues (value : Occurrence → List Char) (os : List Occurrence) (tail : List Char) :
    List Char :=
  os.flatMap (fun o => o.gap ++ value o) ++ tail

variable {cs gap w line tail tail' : List Char} {p : Placeholder} {os os' : List Occurrence}
  {c : Char}

theorem begins_iff : Begins cs ↔ (placeholder? cs).isSome := by
  rw [Option.isSome_iff_exists]
  constructor
  · rintro ⟨p, w, rest, hw, hcs⟩
    exact ⟨(p, rest), placeholder?_eq_some_iff.2 ⟨w, hw, hcs⟩⟩
  · rintro ⟨⟨p, rest⟩, h⟩
    obtain ⟨w, hw, hcs⟩ := placeholder?_eq_some_iff.1 h
    exact ⟨p, w, rest, hw, hcs⟩

theorem begins_written (hw : p.Written w) (line : List Char) : Begins (w ++ line) :=
  ⟨p, w, line, hw, rfl⟩

theorem placeholder?_of_not_begins (h : ¬Begins cs) : placeholder? cs = none := by
  rwa [begins_iff, Option.not_isSome_iff_eq_none] at h

/-- A line is its gaps and what is written between them. -/
theorem Reading.line_eq (h : Reading line os tail) :
    line = withValues Occurrence.written os tail := by
  induction h with
  | last _ => rfl
  | next _ _ _ ih => simp [withValues, ih]

/-- A character before a line at which no placeholder begins belongs to the first gap. -/
theorem Reading.cons (h : Reading line os tail) (hc : ¬Begins (c :: line)) :
    ∃ os' tail', Reading (c :: line) os' tail' := by
  cases h with
  | last hnone =>
    refine ⟨[], _, .last fun front cs heq => ?_⟩
    rcases List.cons_eq_append_iff.1 heq with ⟨-, rfl⟩ | ⟨front, -, hsplit⟩
    · exact hc
    · exact hnone front cs hsplit
  | @next gap w line _ p os hw hnone hread =>
    refine ⟨⟨c :: gap, w, p⟩ :: os, tail, ?_⟩
    change Reading ((c :: gap) ++ (w ++ line)) _ _
    refine .next hw (fun front cs heq hne => ?_) hread
    rcases List.cons_eq_append_iff.1 heq with ⟨-, rfl⟩ | ⟨front, -, hsplit⟩
    · exact hc
    · exact hnone front cs hsplit hne

/-- **Every line can be read.** -/
theorem exists_reading (line : List Char) : ∃ os tail, Reading line os tail := by
  induction line using pieces.induct with
  | case1 =>
    refine ⟨[], [], .last fun front cs heq => ?_⟩
    rw [(List.append_eq_nil_iff.1 heq.symm).2, begins_iff]
    exact Bool.false_ne_true
  | case2 c rest p after h ih =>
    obtain ⟨os, tail, hread⟩ := ih
    obtain ⟨w, hw, heq⟩ := placeholder?_eq_some_iff.1 h
    refine ⟨⟨[], w, p⟩ :: os, tail, ?_⟩
    rw [heq, ← List.nil_append (w ++ after)]
    exact .next hw (by simp) hread
  | case3 c rest h ih =>
    obtain ⟨os, tail, hread⟩ := ih
    exact hread.cons (by simp [begins_iff, h])

/-- There is one leftmost place at which a placeholder begins. -/
theorem leftmost_unique {gap gap' after after' : List Char} (heq : gap ++ after = gap' ++ after')
    (hafter : Begins after) (hafter' : Begins after')
    (hnone : ∀ front cs, gap = front ++ cs → cs ≠ [] → ¬Begins (cs ++ after))
    (hnone' : ∀ front cs, gap' = front ++ cs → cs ≠ [] → ¬Begins (cs ++ after')) :
    gap = gap' ∧ after = after' := by
  rcases List.append_eq_append_iff.1 heq with ⟨x, rfl, rfl⟩ | ⟨x, rfl, rfl⟩
  · cases x with
    | nil => simp
    | cons c x => exact absurd hafter (hnone' gap (c :: x) rfl (by simp))
  · cases x with
    | nil => simp
    | cons c x => exact absurd hafter' (hnone gap' (c :: x) rfl (by simp))

/-- **A line is read in one way.** -/
theorem Reading.unique (h : Reading line os tail) (h' : Reading line os' tail') :
    os = os' ∧ tail = tail' := by
  induction h generalizing os' with
  | last hnone =>
    cases h' with
    | last _ => exact ⟨rfl, rfl⟩
    | @next gap w line _ p os hw _ _ =>
      exact absurd (begins_written hw line) (hnone gap (w ++ line) rfl)
  | @next gap w line tail p os hw hnone hread ih =>
    generalize hline : gap ++ (w ++ line) = whole at h'
    cases h' with
    | last hnone' => exact absurd (begins_written hw line) (hnone' gap (w ++ line) hline.symm)
    | @next gap' w' line' _ p' os' hw' hnone' hread' =>
      obtain ⟨rfl, hsame⟩ := leftmost_unique hline (begins_written hw line)
        (begins_written hw' line') hnone hnone'
      have hfound : some (p, line) = some (p', line') := by
        rw [← placeholder?_of_written hw line, hsame]
        exact placeholder?_of_written hw' line'
      obtain ⟨rfl, rfl⟩ := Prod.mk.inj (Option.some.inj hfound)
      obtain rfl := List.append_cancel_right hsame
      obtain ⟨rfl, rfl⟩ := ih hread'
      exact ⟨rfl, rfl⟩

/-! ## The pieces of a line -/

/-- The pieces of a line that is read so. -/
def piecesOf (os : List Occurrence) (tail : List Char) : List Piece :=
  os.flatMap (fun o => o.gap.map .char ++ [.placeholder o.placeholder]) ++ tail.map .char

theorem piecesOf_cons (o : Occurrence) (os : List Occurrence) (tail : List Char) :
    piecesOf (o :: os) tail =
      o.gap.map .char ++ (.placeholder o.placeholder :: piecesOf os tail) := by
  simp [piecesOf]

theorem pieces_of_written (hw : p.Written w) (line : List Char) :
    pieces (w ++ line) = .placeholder p :: pieces line := by
  have hfound := placeholder?_of_written hw line
  generalize hcs : w ++ line = cs at hfound
  cases cs with
  | nil => cases hfound
  | cons c rest =>
    rw [pieces]
    split
    · rename_i q after h
      rw [hfound] at h
      obtain ⟨rfl, rfl⟩ := Prod.mk.inj (Option.some.inj h)
      rfl
    · rename_i h
      rw [hfound] at h
      cases h

theorem pieces_cons (h : ¬Begins (c :: line)) : pieces (c :: line) = .char c :: pieces line := by
  have hnone : placeholder? (c :: line) = none := placeholder?_of_not_begins h
  rw [pieces]
  split
  · rename_i hfound
    rw [hnone] at hfound
    cases hfound
  · rfl

theorem pieces_append (hnone : ∀ front cs, gap = front ++ cs → cs ≠ [] → ¬Begins (cs ++ line)) :
    pieces (gap ++ line) = gap.map .char ++ pieces line := by
  induction gap with
  | nil => rfl
  | cons c gap ih =>
    have hc : ¬Begins (c :: (gap ++ line)) := hnone [] (c :: gap) rfl (by simp)
    rw [List.cons_append, pieces_cons hc,
      ih fun front cs heq => hnone (c :: front) cs (by rw [heq, List.cons_append])]
    rfl

theorem Reading.pieces_eq (h : Reading line os tail) : pieces line = piecesOf os tail := by
  induction h with
  | @last tail hnone =>
    have hall : pieces (tail ++ []) = tail.map .char ++ pieces [] :=
      pieces_append fun front cs heq _ => by simpa using hnone front cs heq
    simpa [piecesOf, pieces] using hall
  | next hw hnone _ ih =>
    rw [pieces_append hnone, pieces_of_written hw, ih]
    simp [piecesOf]

/-! ## Values -/

/-- What a key begins with that names an environment variable. -/
def scopeWord : List Char := ['e', 'n', 'v', '.']

/-- A placeholder has a value: its key is in scope, and its variable is set, or else it has a
default. -/
inductive Resolves (env : Environment) : Placeholder → List Char → Prop
  | set {name : List Char} {fallback : Option (List Char)} {value : String} :
    '.' ∉ name → env (String.ofList name) = some value →
    Resolves env ⟨scopeWord ++ name, fallback⟩ value.toList
  | unset {name text : List Char} :
    '.' ∉ name → env (String.ofList name) = none →
    Resolves env ⟨scopeWord ++ name, some text⟩ text

/-- A placeholder has no value, and why. -/
inductive Fails (env : Environment) : Placeholder → ExpansionError → Prop
  | outOfScope {key : List Char} {fallback : Option (List Char)} :
    (∀ name, key = scopeWord ++ name → '.' ∈ name) →
    Fails env ⟨key, fallback⟩ (.outOfScope (String.ofList key))
  | unset {name : List Char} :
    '.' ∉ name → env (String.ofList name) = none →
    Fails env ⟨scopeWord ++ name, none⟩ (.unset (String.ofList name))

variable {env : Environment} {value : List Char} {e : ExpansionError}

theorem variableOf?_eq_some_iff {key name : List Char} :
    variableOf? key = some name ↔ key = scopeWord ++ name ∧ '.' ∉ name := by
  constructor
  · intro h
    unfold variableOf? at h
    split at h
    · split at h
      · cases h
      · rename_i hname
        obtain rfl := Option.some.inj h
        exact ⟨rfl, hname⟩
    · cases h
  · rintro ⟨rfl, hname⟩
    exact if_neg hname

theorem resolve_of_resolves (h : Resolves env p value) : p.resolve env = .ok value := by
  cases h with
  | set hname henv =>
    simp only [Placeholder.resolve, variableOf?_eq_some_iff.2 ⟨rfl, hname⟩, henv]
  | unset hname henv =>
    simp only [Placeholder.resolve, variableOf?_eq_some_iff.2 ⟨rfl, hname⟩, henv]

theorem resolve_of_fails (h : Fails env p e) : p.resolve env = .error e := by
  cases h with
  | @outOfScope key fallback hkey =>
    have hnone : variableOf? key = none := by
      rw [Option.eq_none_iff_forall_ne_some]
      intro name hname
      obtain ⟨hscope, hpoint⟩ := variableOf?_eq_some_iff.1 hname
      exact hpoint (hkey name hscope)
    simp only [Placeholder.resolve, hnone]
  | unset hname henv =>
    simp only [Placeholder.resolve, variableOf?_eq_some_iff.2 ⟨rfl, hname⟩, henv]

/-- A placeholder has a value or an error. -/
theorem resolves_or_fails (env : Environment) (p : Placeholder) :
    (∃ value, Resolves env p value) ∨ ∃ e, Fails env p e := by
  obtain ⟨key, fallback⟩ := p
  by_cases hkey : ∃ name, key = scopeWord ++ name ∧ '.' ∉ name
  · obtain ⟨name, rfl, hname⟩ := hkey
    cases henv : env (String.ofList name) with
    | some value => exact .inl ⟨_, .set hname henv⟩
    | none =>
      cases fallback with
      | some text => exact .inl ⟨_, .unset hname henv⟩
      | none => exact .inr ⟨_, .unset hname henv⟩
  · refine .inr ⟨_, .outOfScope fun name heq => ?_⟩
    by_contra hname
    exact hkey ⟨name, heq, hname⟩

/-! ## The expanded line -/

/-- Some occurrences of which all have a value, or of which one is the first without. -/
theorem resolves_or_fails_first (env : Environment) (os : List Occurrence) :
    (∃ value : Occurrence → List Char, ∀ o ∈ os, Resolves env o.placeholder (value o)) ∨
      ∃ before o after e, os = before ++ o :: after ∧
        (∀ q ∈ before, ∃ value, Resolves env q.placeholder value) ∧ Fails env o.placeholder e := by
  by_cases hall : ∀ o ∈ os, ∃ value, Resolves env o.placeholder value
  · choose! value hvalue using hall
    exact .inl ⟨value, hvalue⟩
  · refine .inr ?_
    induction os with
    | nil => simp at hall
    | cons o os ih =>
      rcases resolves_or_fails env o.placeholder with ho | ⟨e, he⟩
      · obtain ⟨before, q, after, e, rfl, hbefore, he⟩ :=
          ih fun hos => hall (List.forall_mem_cons.2 ⟨ho, hos⟩)
        exact ⟨o :: before, q, after, e, rfl, List.forall_mem_cons.2 ⟨ho, hbefore⟩, he⟩
      · exact ⟨[], o, os, e, rfl, by simp, he⟩

theorem resolvePieces_append (env : Environment) (gap : List Char) (ps : List Piece) :
    resolvePieces env (gap.map .char ++ ps) = (resolvePieces env ps).map (gap ++ ·) := by
  induction gap with
  | nil => cases h : resolvePieces env ps <;> simp [h, Except.map]
  | cons c gap ih =>
    simp only [List.map_cons, List.cons_append, resolvePieces, Piece.resolve, ih]
    cases resolvePieces env ps <;> rfl

theorem resolvePieces_of_resolves {value : Occurrence → List Char}
    (h : ∀ o ∈ os, Resolves env o.placeholder (value o)) (tail : List Char) :
    resolvePieces env (piecesOf os tail) = .ok (withValues value os tail) := by
  induction os with
  | nil =>
    have htail := resolvePieces_append env tail []
    simpa [piecesOf, withValues, resolvePieces, Except.map] using htail
  | cons o os ih =>
    obtain ⟨ho, hos⟩ := List.forall_mem_cons.1 h
    rw [piecesOf_cons, resolvePieces_append, resolvePieces, Piece.resolve, resolve_of_resolves ho,
      ih hos]
    simp [withValues, Except.map]

theorem resolvePieces_of_fails {before after : List Occurrence} {o : Occurrence}
    (hbefore : ∀ q ∈ before, ∃ value, Resolves env q.placeholder value)
    (ho : Fails env o.placeholder e) (tail : List Char) :
    resolvePieces env (piecesOf (before ++ o :: after) tail) = .error e := by
  induction before with
  | nil =>
    rw [List.nil_append, piecesOf_cons, resolvePieces_append, resolvePieces, Piece.resolve,
      resolve_of_fails ho]
    rfl
  | cons q before ih =>
    obtain ⟨⟨value, hq⟩, hbefore⟩ := List.forall_mem_cons.1 hbefore
    rw [List.cons_append, piecesOf_cons, resolvePieces_append, resolvePieces, Piece.resolve,
      resolve_of_resolves hq, ih hbefore]
    rfl

namespace Reading

theorem expandLine_of_resolves (h : Reading line os tail) {value : Occurrence → List Char}
    (hvalue : ∀ o ∈ os, Resolves env o.placeholder (value o)) :
    expandLine env line = .ok (withValues value os tail) := by
  rw [expandLine, h.pieces_eq, resolvePieces_of_resolves hvalue]

theorem expandLine_of_fails {before after : List Occurrence} {o : Occurrence}
    (h : Reading line (before ++ o :: after) tail)
    (hbefore : ∀ q ∈ before, ∃ value, Resolves env q.placeholder value)
    (ho : Fails env o.placeholder e) : expandLine env line = .error e := by
  rw [expandLine, h.pieces_eq, resolvePieces_of_fails hbefore ho]

theorem expandLine_eq_ok_iff (h : Reading line os tail) {out : List Char} :
    expandLine env line = .ok out ↔
      ∃ value : Occurrence → List Char,
        (∀ o ∈ os, Resolves env o.placeholder (value o)) ∧ out = withValues value os tail := by
  constructor
  · intro hout
    rcases resolves_or_fails_first env os with ⟨value, hvalue⟩ | ⟨_, _, _, e, rfl, hbefore, he⟩
    · rw [h.expandLine_of_resolves hvalue] at hout
      exact ⟨value, hvalue, (Except.ok.inj hout).symm⟩
    · rw [h.expandLine_of_fails hbefore he] at hout
      cases hout
  · rintro ⟨value, hvalue, rfl⟩
    exact h.expandLine_of_resolves hvalue

theorem expandLine_eq_error_iff (h : Reading line os tail) :
    expandLine env line = .error e ↔
      ∃ before o after, os = before ++ o :: after ∧
        (∀ q ∈ before, ∃ value, Resolves env q.placeholder value) ∧ Fails env o.placeholder e := by
  constructor
  · intro hout
    rcases resolves_or_fails_first env os with ⟨value, hvalue⟩ | ⟨before, o, after, e', rfl, hb, he⟩
    · rw [h.expandLine_of_resolves hvalue] at hout
      cases hout
    · rw [h.expandLine_of_fails hb he] at hout
      obtain rfl := Except.error.inj hout
      exact ⟨before, o, after, rfl, hb, he⟩
  · rintro ⟨before, o, after, rfl, hbefore, he⟩
    exact h.expandLine_of_fails hbefore he

end Reading

/-- **A line is expanded as it is read.** It can be read in one way. It expands to a text if and
only if all its placeholders have values, and then the text is the line with these in their places.
Otherwise the error is that of the first placeholder that has none. -/
theorem expandLine_exact (env : Environment) (line : List Char) :
    ∃ os tail, Reading line os tail ∧
      (∀ os' tail', Reading line os' tail' → os' = os ∧ tail' = tail) ∧
      line = withValues Occurrence.written os tail ∧
      (∀ out, expandLine env line = .ok out ↔
        ∃ value : Occurrence → List Char,
          (∀ o ∈ os, Resolves env o.placeholder (value o)) ∧ out = withValues value os tail) ∧
      ∀ e, expandLine env line = .error e ↔
        ∃ before o after, os = before ++ o :: after ∧
          (∀ q ∈ before, ∃ value, Resolves env q.placeholder value) ∧
          Fails env o.placeholder e := by
  obtain ⟨os, tail, hread⟩ := exists_reading line
  exact ⟨os, tail, hread, fun _ _ h => h.unique hread, hread.line_eq,
    fun _ => hread.expandLine_eq_ok_iff, fun _ => hread.expandLine_eq_error_iff⟩

/-- Of three opening braces the first is copied, and a value is not looked at again. -/
example :
    expandLine (fun _ => some "\x7b\x7benv.Y\x7d\x7d") "\x7b\x7b\x7benv.X\x7d\x7d".toList =
      .ok "\x7b\x7b\x7benv.Y\x7d\x7d".toList := by
  cbv

end ChatGateway.Config
