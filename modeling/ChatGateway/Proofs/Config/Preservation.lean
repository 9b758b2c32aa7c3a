import Mathlib.Data.List.Basic
import ChatGateway.Proofs.Config.Expansion

/-!
# What expansion leaves as it is

A text is a list of lines, each with the characters that end it (`Lined`). Expansion puts the values
of placeholders in their places on the lines that are not comments, and leaves the rest of every
line, and comments as a whole, as they are. A line that ended with a line feed still does so, and
the last line need not. But where a carriage return stood before the line feed it is lost
(`expand_preserves`, `carriage_return_is_lost`).
-/

namespace ChatGateway.Config

open Text

/-! ## Lines and their ends -/

/-- How a line ends. -/
inductive LineEnd where
  | feed
  /-- A carriage return, and then a line feed. -/
  | returnFeed
  /-- The line is the last one, and nothing ends it. -/
  | endOfText
deriving DecidableEq

namespace LineEnd

/-- The characters that end the line. -/
def written : LineEnd → List Char
  | .feed => ['\n']
  | .returnFeed => ['\r', '\n']
  | .endOfText => []

/-- The characters that end the line once it has been expanded. -/
def kept : LineEnd → List Char
  | .endOfText => []
  | _ => ['\n']

end LineEnd

/-- A line and how it ends. -/
structure TextLine where
  content : List Char
  ending : LineEnd

/-- The lines of a text. A line ends at the first line feed, to which a carriage return before it
belongs. -/
inductive Lined : List Char → List TextLine → Prop
  | nil : Lined [] []
  | last {content : List Char} : content ≠ [] → '\n' ∉ content →
    Lined content [⟨content, .endOfText⟩]
  | feed {content rest : List Char} {ls : List TextLine} : '\n' ∉ content →
    content.getLast? ≠ some '\r' → Lined rest ls →
    Lined (content ++ '\n' :: rest) (⟨content, .feed⟩ :: ls)
  | returnFeed {content rest : List Char} {ls : List TextLine} : '\n' ∉ content → Lined rest ls →
    Lined (content ++ '\r' :: '\n' :: rest) (⟨content, .returnFeed⟩ :: ls)

/-- The text of some lines, with something in the place of their contents and of their ends. -/
def textOf (ending : LineEnd → List Char) (value : TextLine → List Char) (ls : List TextLine) :
    List Char :=
  ls.flatMap fun l => value l ++ ending l.ending

variable {text content rest begun : List Char} {ls : List TextLine} {c : Char}

theorem Lined.text_eq (h : Lined text ls) : text = textOf LineEnd.written TextLine.content ls := by
  induction h with
  | nil => rfl
  | last _ _ => simp [textOf, LineEnd.written]
  | feed _ _ _ ih => simpa [textOf, LineEnd.written] using ih
  | returnFeed _ _ ih => simpa [textOf, LineEnd.written] using ih

/-- A character that ends no line belongs to the first one, or is the carriage return with which the
end of that line begins. -/
theorem Lined.cons (h : Lined rest ls) (hc : '\n' ≠ c) : ∃ ls', Lined (c :: rest) ls' := by
  cases h with
  | nil => exact ⟨_, .last (by simp) (by simpa using hc)⟩
  | last _ hfeed => exact ⟨_, .last (by simp) (by simp [hfeed, hc])⟩
  | @feed content rest ls hfeed hreturn hrest =>
    by_cases hcr : c = '\r' ∧ content = []
    · obtain ⟨rfl, rfl⟩ := hcr
      have hlined : Lined ([] ++ '\r' :: '\n' :: rest) _ := .returnFeed List.not_mem_nil hrest
      exact ⟨_, hlined⟩
    · have hlast : (c :: content).getLast? ≠ some '\r' := by
        cases content with
        | nil => simpa using hcr
        | cons b content => simpa [List.getLast?_cons_cons] using hreturn
      have hlined : Lined ((c :: content) ++ '\n' :: rest) _ :=
        .feed (by simp [hfeed, hc]) hlast hrest
      exact ⟨_, hlined⟩
  | @returnFeed content rest ls hfeed hrest =>
    have hlined : Lined ((c :: content) ++ '\r' :: '\n' :: rest) _ :=
      .returnFeed (by simp [hfeed, hc]) hrest
    exact ⟨_, hlined⟩

theorem exists_lined (text : List Char) : ∃ ls, Lined text ls := by
  induction text with
  | nil => exact ⟨[], .nil⟩
  | cons c rest ih =>
    obtain ⟨ls, hls⟩ := ih
    by_cases hc : '\n' = c
    · subst hc
      have hlined : Lined ([] ++ '\n' :: rest) _ := .feed List.not_mem_nil (by simp) hls
      exact ⟨_, hlined⟩
    · exact hls.cons hc

/-! ## Lines taken apart and put together -/

theorem linesFrom_append (h : '\n' ∉ content) (begun rest : List Char) :
    linesFrom begun (content ++ rest) = linesFrom (content.reverse ++ begun) rest := by
  induction content generalizing begun with
  | nil => rfl
  | cons c content ih =>
    simp only [List.mem_cons, not_or] at h
    rw [List.cons_append, linesFrom, if_neg (Ne.symm h.1), ih h.2]
    simp

theorem Lined.lines_eq (h : Lined text ls) : lines text = ls.map (·.content) := by
  induction h with
  | nil => rfl
  | @last content hne hfeed =>
    have hall := linesFrom_append hfeed [] []
    simpa [lines, linesFrom, hne] using hall
  | @feed content rest ls hfeed hreturn _ ih =>
    have hdrop : dropReturn content.reverse = content.reverse := by
      unfold dropReturn
      split
      · rename_i heq
        rw [← List.head?_reverse, heq] at hreturn
        simp at hreturn
      · rfl
    rw [lines, linesFrom_append hfeed, linesFrom, if_pos rfl, List.append_nil, hdrop, ← lines, ih]
    simp
  | @returnFeed content rest ls hfeed _ ih =>
    rw [lines, linesFrom_append hfeed, linesFrom, if_neg (by decide), linesFrom, if_pos rfl,
      dropReturn, ← lines, ih]
    simp

theorem Lined.eq_nil_iff (h : Lined text ls) : text = [] ↔ ls = [] := by
  cases h with
  | last hne _ => simpa using hne
  | _ => simp

/-- The line feed at the end of a text, which is not between two lines. -/
def finalFeed (text : List Char) : List Char :=
  if text.getLast? = some '\n' then ['\n'] else []

theorem finalFeed_append (front rest : List Char) (c : Char) :
    finalFeed (front ++ c :: rest) = finalFeed (c :: rest) := by
  rw [finalFeed, List.getLast?_append_cons, finalFeed]

/-- A line that ends with a line feed, before the lines that follow. -/
theorem Lined.joinLines_cons (h : Lined rest ls) (value : TextLine → List Char) (l : List Char) :
    joinLines (l :: ls.map value) ++ finalFeed ('\n' :: rest) =
      l ++ '\n' :: (joinLines (ls.map value) ++ finalFeed rest) := by
  cases ls with
  | nil =>
    obtain rfl := h.eq_nil_iff.2 rfl
    simp [joinLines, finalFeed]
  | cons next ls =>
    have hne : rest ≠ [] := fun heq => List.cons_ne_nil next ls (h.eq_nil_iff.1 heq)
    obtain ⟨c, rest, rfl⟩ := List.exists_cons_of_ne_nil hne
    rw [← finalFeed_append ['\n'] rest c]
    simp [joinLines]

/-- Lines that are put together again end as they did, but with a line feed alone. -/
theorem Lined.joinLines_eq (h : Lined text ls) (value : TextLine → List Char) :
    joinLines (ls.map value) ++ finalFeed text = textOf LineEnd.kept value ls := by
  induction h with
  | nil => rfl
  | @last content _ hfeed =>
    have hnone : content.getLast? ≠ some '\n' := fun h => hfeed (List.mem_of_getLast? h)
    simp [joinLines, finalFeed, textOf, LineEnd.kept, hnone]
  | feed _ _ hrest ih =>
    rw [List.map_cons, finalFeed_append, hrest.joinLines_cons, ih]
    simp [textOf, LineEnd.kept]
  | @returnFeed content rest _ _ hrest ih =>
    have hfinal : finalFeed (content ++ '\r' :: '\n' :: rest) = finalFeed ('\n' :: rest) := by
      rw [finalFeed_append, ← finalFeed_append ['\r']]
      rfl
    rw [List.map_cons, hfinal, hrest.joinLines_cons, ih]
    simp [textOf, LineEnd.kept]

/-! ## What a line becomes -/

/-- The line is a comment: after white space it begins with a hash. -/
def CommentLine (line : List Char) : Prop :=
  ∃ gap rest, Blank gap ∧ line = gap ++ '#' :: rest

/-- A line becomes another text: a comment remains what it is, and on any other line the values of
the placeholders are put in their places. -/
inductive Becomes (env : Environment) : List Char → List Char → Prop
  | comment {line : List Char} : CommentLine line → Becomes env line line
  | filled {line tail : List Char} {os : List Occurrence} {value : Occurrence → List Char} :
    ¬CommentLine line → Reading line os tail →
    (∀ o ∈ os, Resolves env o.placeholder (value o)) → Becomes env line (withValues value os tail)

/-- No placeholder is written on the line, unless it is a comment. -/
def PlainLine (line : List Char) : Prop := CommentLine line ∨ Reading line [] line

variable {env : Environment} {line out : List Char}

theorem isComment_iff : isComment line = true ↔ CommentLine line := by
  obtain ⟨gap, rest, hgap, hdrop, rfl⟩ := exists_blank line
  rw [isComment, hdrop, decide_eq_true_iff]
  constructor
  · intro h
    obtain ⟨more, rfl⟩ := List.head?_eq_some_iff.1 h
    exact ⟨gap, more, hgap, rfl⟩
  · rintro ⟨front, more, hfront, heq⟩
    have hsame : (gap ++ rest).dropWhile isBlank = '#' :: more := by
      rw [heq, hfront.dropWhile_append]
      rfl
    rw [hdrop] at hsame
    rw [hsame]
    rfl

/-- What a line becomes is what it is expanded to. -/
theorem becomes_iff :
    Becomes env line out ↔
      (if isComment line then Except.ok line else expandLine env line) = .ok out := by
  by_cases hc : CommentLine line
  · rw [if_pos (isComment_iff.2 hc), Except.ok.injEq]
    constructor
    · intro h
      cases h with
      | comment _ => rfl
      | filled hn _ _ => exact absurd hc hn
    · rintro rfl
      exact .comment hc
  · rw [if_neg (mt isComment_iff.1 hc)]
    obtain ⟨os, tail, hread⟩ := exists_reading line
    rw [hread.expandLine_eq_ok_iff]
    constructor
    · intro h
      cases h with
      | comment h => exact absurd h hc
      | filled _ hread' hvalue =>
        obtain ⟨rfl, rfl⟩ := hread.unique hread'
        exact ⟨_, hvalue, rfl⟩
    · rintro ⟨value, hvalue, rfl⟩
      exact .filled hc hread hvalue

theorem PlainLine.becomes (h : PlainLine line) (env : Environment) : Becomes env line line := by
  by_cases hc : CommentLine line
  · exact .comment hc
  · have hread := h.resolve_left hc
    have hfilled : Becomes env line (withValues Occurrence.written [] line) :=
      .filled hc hread (by simp)
    exact hfilled

/-- A line without an opening brace is plain. -/
theorem plainLine_of_not_mem (h : '\x7b' ∉ line) : PlainLine line := by
  refine .inr (.last fun front cs heq => ?_)
  rintro ⟨p, w, rest, hw, rfl⟩
  cases hw
  exact h (by simp [heq, openingBraces])

/-! ## The whole text -/

theorem exists_becomes_of_expandLines {lines outs : List (List Char)}
    (h : expandLines env lines = .ok outs) : ∀ line ∈ lines, ∃ out, Becomes env line out := by
  induction lines generalizing outs with
  | nil => simp
  | cons line lines ih =>
    unfold expandLines at h
    split at h
    · cases h
    · rename_i out hline
      split at h
      · cases h
      · rename_i outs hlines
        exact List.forall_mem_cons.2 ⟨⟨out, becomes_iff.2 hline⟩, ih hlines⟩

theorem expandLines_of_becomes {value : TextLine → List Char}
    (h : ∀ l ∈ ls, Becomes env l.content (value l)) :
    expandLines env (ls.map (·.content)) = .ok (ls.map value) := by
  induction ls with
  | nil => rfl
  | cons l ls ih =>
    obtain ⟨hl, hls⟩ := List.forall_mem_cons.1 h
    simp only [List.map_cons, expandLines, becomes_iff.1 hl, ih hls]

namespace Lined

variable {text : String}

theorem expand_of_becomes (hlined : Lined text.toList ls) {value : TextLine → List Char}
    (h : ∀ l ∈ ls, Becomes env l.content (value l)) :
    expand env text = .ok (String.ofList (textOf LineEnd.kept value ls)) := by
  rw [expand, hlined.lines_eq, expandLines_of_becomes h, ← hlined.joinLines_eq value]
  rfl

/-- A text can be expanded exactly if its lines can. -/
theorem expand_eq_ok_iff (hlined : Lined text.toList ls) {out : String} :
    expand env text = .ok out ↔
      ∃ value : TextLine → List Char, (∀ l ∈ ls, Becomes env l.content (value l)) ∧
        out.toList = textOf LineEnd.kept value ls := by
  constructor
  · intro h
    have hlines : ∀ l ∈ ls, ∃ value, Becomes env l.content value := by
      rw [expand, hlined.lines_eq] at h
      cases hok : expandLines env (ls.map (·.content)) with
      | error e =>
        rw [hok] at h
        cases h
      | ok outs =>
        exact fun l hl => exists_becomes_of_expandLines hok l.content (List.mem_map_of_mem hl)
    choose! value hvalue using hlines
    rw [hlined.expand_of_becomes hvalue] at h
    obtain rfl := Except.ok.inj h
    exact ⟨value, hvalue, String.toList_ofList⟩
  · rintro ⟨value, hvalue, hout⟩
    rw [hlined.expand_of_becomes hvalue, ← hout, String.ofList_toList]

/-- Every line of the text ends as it was written, if no carriage return stands before a line
feed. -/
theorem textOf_kept {text : List Char} (hlined : Lined text ls) (h : ¬['\r', '\n'] <:+: text)
    (value : TextLine → List Char) :
    textOf LineEnd.kept value ls = textOf LineEnd.written value ls := by
  induction hlined with
  | nil => rfl
  | last _ _ => rfl
  | @feed content rest ls _ _ _ ih =>
    have hrest := ih fun hlater => h (hlater.trans ⟨content ++ ['\n'], [], by simp⟩)
    simpa [textOf, LineEnd.kept, LineEnd.written] using hrest
  | @returnFeed content rest ls _ _ _ => exact absurd ⟨content, rest, by simp⟩ h

end Lined

/-- **Expansion leaves all else as it is.** On the lines that are not comments the values of the
placeholders are put in their places. All other characters of the lines remain, and every line ends
as it did, but for carriage returns before line feeds. So a text in which no placeholder is written
outside of comments and no carriage return before a line feed expands to itself. -/
theorem expand_preserves (text : String) :
    ∃ ls, Lined text.toList ls ∧
      text.toList = textOf LineEnd.written TextLine.content ls ∧
      (∀ env out, expand env text = .ok out ↔
        ∃ value : TextLine → List Char, (∀ l ∈ ls, Becomes env l.content (value l)) ∧
          out.toList = textOf LineEnd.kept value ls) ∧
      ((∀ l ∈ ls, PlainLine l.content) → ∀ env,
        expand env text = .ok (String.ofList (textOf LineEnd.kept TextLine.content ls))) ∧
      (¬['\r', '\n'] <:+: text.toList →
        (∀ value, textOf LineEnd.kept value ls = textOf LineEnd.written value ls) ∧
        ((∀ l ∈ ls, PlainLine l.content) → ∀ env, expand env text = .ok text)) := by
  obtain ⟨ls, hlined⟩ := exists_lined text.toList
  have hplain (h : ∀ l ∈ ls, PlainLine l.content) (env : Environment) :
      expand env text = .ok (String.ofList (textOf LineEnd.kept TextLine.content ls)) :=
    hlined.expand_of_becomes fun l hl => (h l hl).becomes env
  refine ⟨ls, hlined, hlined.text_eq, fun _ _ => hlined.expand_eq_ok_iff, hplain, fun hfeed => ?_⟩
  refine ⟨hlined.textOf_kept hfeed, fun h env => ?_⟩
  rw [hplain h, hlined.textOf_kept hfeed, ← hlined.text_eq, String.ofList_toList]

/-- **A carriage return before a line feed is lost**, at the end of a comment too, so a text in
which no placeholder is written need not expand to itself. -/
theorem carriage_return_is_lost :
    ¬∀ (text : String) (ls : List TextLine), Lined text.toList ls →
      (∀ l ∈ ls, PlainLine l.content) → ∀ env, expand env text = .ok text := by
  intro h
  have hlined : Lined (String.ofList ['#', '\r', '\n', 'b']).toList
      [⟨['#'], .returnFeed⟩, ⟨['b'], .endOfText⟩] := by
    have hlast : Lined ['b'] [⟨['b'], .endOfText⟩] := .last (by decide) (by decide)
    have hall : Lined (['#'] ++ '\r' :: '\n' :: ['b']) _ := .returnFeed (by decide) hlast
    rwa [String.toList_ofList]
  have hplain (l : TextLine) (hl : l ∈ [⟨['#'], .returnFeed⟩, ⟨['b'], .endOfText⟩]) :
      PlainLine l.content := by
    simp only [List.mem_cons, List.not_mem_nil, or_false] at hl
    rcases hl with rfl | rfl <;> exact plainLine_of_not_mem (by decide)
  have hsame := h _ _ hlined hplain fun _ => none
  rw [hlined.expand_of_becomes fun l hl => (hplain l hl).becomes _] at hsame
  have hlost : ['#', '\n', 'b'] = ['#', '\r', '\n', 'b'] :=
    String.ofList_injective (Except.ok.inj hsame)
  exact absurd hlost (by decide)

end ChatGateway.Config
