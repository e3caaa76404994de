/-
This file states which markup is ignored and shows that it is read as a whole, whatever it contains.
-/

import SvgComponent.Proofs.Markup.Grammar
import SvgComponent.Proofs.Markup.Reading

namespace SvgComponent.Markup

open Text

-- A property of all members of a list is decided by the members, not by all characters.
attribute [local instance (high)] List.decidableBAll

/-- No end tag of the name stands in a text. -/
def LacksEndTag (tag body : List Char) : Prop :=
  ∀ spaces, isBlankText spaces = true → ¬ (['<', '/'] ++ tag ++ spaces ++ ['>']) <:+: body

/-- The start of a dropped tag up to its end. Blank text parts the attributes from the name. -/
inductive DroppedTag (tag : List Char) : List (List Char) → List Char → Prop
  | intro {values : List (List Char)} {inner spaces : List Char}
      (dropped : Token.isDropped tag = true) (attributed : QuotedAttributes values inner)
      (apart : ∀ c, inner.head? = some c → isBlank c = true) (blank : isBlankText spaces = true) :
      DroppedTag tag values (['<'] ++ tag ++ inner ++ spaces)

/-- Ignored markup is a comment, an instruction, a document type, a blank verbatim section, or a
dropped element with the given values of attributes. -/
inductive Ignored : List (List Char) → List Char → Prop
  | comment {body : List Char} (unclosed : ¬ ['-', '-', '>'] <:+: body) :
      Ignored [] (['<', '!', '-', '-'] ++ body ++ ['-', '-', '>'])
  | instruction {body : List Char} (unclosed : ¬ ['?', '>'] <:+: body) :
      Ignored [] (['<', '?'] ++ body ++ ['?', '>'])
  | doctype {word body : List Char} (spelled : word.map Char.toUpper = "DOCTYPE".toList)
      (unclosed : '>' ∉ body) : Ignored [] (['<', '!'] ++ word ++ body ++ ['>'])
  | verbatim {spaces : List Char} (blank : isBlankText spaces = true) :
      Ignored [] ("<![CDATA[".toList ++ spaces ++ [']', ']', '>'])
  | selfClosed {tag start : List Char} {values : List (List Char)}
      (opened : DroppedTag tag values start) : Ignored values (start ++ ['/', '>'])
  | pair {tag start body closing : List Char} {values : List (List Char)}
      (opened : DroppedTag tag values start) (lacking : LacksEndTag tag body)
      (blank : isBlankText closing = true) :
      Ignored values (start ++ ['>'] ++ body ++ ['<', '/'] ++ tag ++ closing ++ ['>'])

/-- An ignored event is skipped or blank. -/
def Event.isIgnored (event : Event) : Bool :=
  event = .skipped || event.isBlank

namespace Tag

/-- An end tag does not begin inside a text that lacks it and end behind the text. -/
theorem not_endTag_append {tag body spaces : List Char} (bracketless : '<' ∉ tag)
    (lacking : LacksEndTag tag body) (present : body ≠ []) (blank : isBlankText spaces = true)
    (ending rest : List Char) :
    ['<', '/'] ++ tag ++ spaces ++ ['>'] ++ ending ≠ body ++ '<' :: rest := by
  intro same
  rcases List.append_eq_append_iff.mp same with ⟨more, inside, -⟩ | ⟨tail, whole, overlap⟩
  · exact lacking spaces blank ⟨[], more, inside.symm⟩
  · cases tail with
    | nil =>
        rw [List.append_nil] at whole
        exact lacking spaces blank (whole ▸ List.infix_rfl)
    | cons x tail =>
        obtain rfl : '<' = x := (List.cons.inj overlap).1
        obtain ⟨c, others, rfl⟩ := List.exists_cons_of_ne_nil present
        have visible : '<' ∉ spaces := fun inside =>
          absurd (List.all_eq_true.mp blank '<' inside) (by decide)
        have single : '<' ∉ '/' :: (tag ++ (spaces ++ ['>'])) := by simp [bracketless, visible]
        simp only [List.append_assoc, List.cons_append, List.nil_append] at whole
        rw [(List.cons.inj whole).2] at single
        simp at single

/-- An end tag is found behind a text that lacks it. -/
theorem afterClosing?_first {tag body closing : List Char} (bracketless : '<' ∉ tag)
    (lacking : LacksEndTag tag body) (blank : isBlankText closing = true) (rest : List Char) :
    afterClosing? tag (body ++ '<' :: '/' :: (tag ++ (closing ++ '>' :: rest))) = some rest := by
  induction body with
  | nil =>
      have marked : (['<', '/'] ++ tag).isPrefixOf?
          ('<' :: '/' :: (tag ++ (closing ++ '>' :: rest))) = some (closing ++ '>' :: rest) :=
        List.isPrefixOf?_eq_some_iff_append_eq.mpr (by simp)
      have bracket : dropBlank (closing ++ '>' :: rest) = '>' :: rest := by
        rw [dropBlank_append _ blank, dropBlank_visible _ (by decide)]
      rw [List.nil_append, afterClosing?, marked]
      simp only [bracket]
  | cons c body inductionHypothesis =>
      have later := inductionHypothesis fun spaces blank inner =>
        lacking spaces blank (inner.trans (List.suffix_cons c body).isInfix)
      rw [List.cons_append, afterClosing?]
      split
      · exact later
      · case _ after marked =>
          split
          · case _ ending bracket =>
              have whole := List.isPrefixOf?_eq_some_iff_append_eq.mp marked
              have spaced : after.takeWhile isBlank ++ '>' :: ending = after := by
                rw [← bracket]
                exact List.takeWhile_append_dropWhile
              have spaces : isBlankText (after.takeWhile isBlank) = true :=
                List.all_takeWhile
              rw [← spaced] at whole
              exact absurd (by simpa using whole)
                (not_endTag_append bracketless lacking (List.cons_ne_nil c body) spaces ending
                  ('/' :: (tag ++ (closing ++ '>' :: rest))))
          · exact later

theorem name?_dropped {tag rest : List Char} (dropped : Token.isDropped tag = true)
    (stop : ∀ c, rest.head? = some c → isNameCharacter c = false) :
    name? (tag ++ rest) = some (tag, rest) := by
  simp only [Token.isDropped, Bool.or_eq_true, decide_eq_true_eq] at dropped
  rcases dropped with rfl | rfl
  · exact name?_append (by decide) (by decide) stop
  · exact name?_append (by decide) (by decide) stop

theorem bracket_notMem {tag : List Char} (dropped : Token.isDropped tag = true) : '<' ∉ tag := by
  simp only [Token.isDropped, Bool.or_eq_true, decide_eq_true_eq] at dropped
  rcases dropped with rfl | rfl <;> decide

end Tag

namespace Token

/-- The start of a dropped tag is read up to its end, or fails at an oversized numeral. -/
theorem read_dropped {length : Nat} {tag start : List Char} {values : List (List Char)}
    (opened : DroppedTag tag values start) (selfClosed : Bool) (rest : List Char)
    (enough : start.length ≤ length) :
    (¬ AnyOversized values →
      read length (start ++ (Tag.ending selfClosed ++ rest)) =
        if selfClosed then .ok (.skipped, rest)
        else (Tag.afterClosing? tag rest).elim (.error (.unclosedTag (String.ofList tag)))
          fun after => .ok (.skipped, after)) ∧
    (AnyOversized values →
      read length (start ++ (Tag.ending selfClosed ++ rest)) = .error .oversizedNumeral) := by
  cases opened with
  | @intro inner spaces dropped attributed apart blank =>
  have stop : ∀ c, (inner ++ (spaces ++ (Tag.ending selfClosed ++ rest))).head? = some c →
      Tag.isNameCharacter c = false := by
    intro c first
    cases inner with
    | nil => exact Tag.stop_blank blank (Tag.stop_ending selfClosed rest) c first
    | cons x inner => exact Tag.isNameCharacter_blank (apart c first)
  have opened : Tag.opening? ('<' :: (tag ++ (inner ++ (spaces ++
      (Tag.ending selfClosed ++ rest))))) =
        some (tag, inner ++ (spaces ++ (Tag.ending selfClosed ++ rest))) := by
    simp [Tag.opening?, List.isPrefixOf?, Tag.name?_dropped dropped stop]
  have few := Tag.length_quoted attributed
  simp only [List.length_append] at enough
  obtain ⟨readable, oversized⟩ := Tag.attributes_quoted attributed
    (Tag.ending?_ending blank selfClosed rest) (show values.length < length + 1 by omega)
  have shape : ['<'] ++ tag ++ inner ++ spaces ++ (Tag.ending selfClosed ++ rest) =
      '<' :: (tag ++ (inner ++ (spaces ++ (Tag.ending selfClosed ++ rest)))) := by simp
  rw [shape, read_start_of_opening length opened, start]
  constructor
  · intro none
    obtain ⟨entries, attributed⟩ := readable none
    simp only [attributed, dropped, if_true]
    cases selfClosed with
    | true => rfl
    | false => cases Tag.afterClosing? tag rest <;> rfl
  · intro some
    simp only [oversized some]

theorem read_skipped {length : Nat} {markup rest : List Char}
    (found : (comment? markup <|> doctype? markup <|> instruction? markup) = some rest) :
    read length markup = .ok (.skipped, rest) := by
  rw [read, found]

/-- A comment is read up to its first closing mark. -/
theorem comment?_append {body : List Char} (unclosed : ¬ ['-', '-', '>'] <:+: body)
    (rest : List Char) :
    comment? (['<', '!', '-', '-'] ++ body ++ ['-', '-', '>'] ++ rest) = some rest := by
  have found : untilMark? ['-', '-', '>'] (body ++ ('-' :: '-' :: '>' :: rest)) =
      some (body, rest) := @untilMark?_first ['-', '-'] body '>' (by decide) unclosed rest
  simp [comment?, List.isPrefixOf?, found]

theorem instruction?_append {body : List Char} (unclosed : ¬ ['?', '>'] <:+: body)
    (rest : List Char) :
    instruction? (['<', '?'] ++ body ++ ['?', '>'] ++ rest) = some rest := by
  have found : untilMark? ['?', '>'] (body ++ ('?' :: '>' :: rest)) = some (body, rest) :=
    @untilMark?_first ['?'] body '>' (by decide) unclosed rest
  simp [instruction?, List.isPrefixOf?, found]

theorem doctype?_append {word body : List Char}
    (spelled : word.map Char.toUpper = "DOCTYPE".toList) (unclosed : '>' ∉ body)
    (rest : List Char) :
    doctype? (['<', '!'] ++ word ++ body ++ ['>'] ++ rest) = some rest := by
  have seven : word.length = 7 := by
    have length := congrArg List.length spelled
    rwa [List.length_map] at length
  have shape : ['<', '!'] ++ word ++ body ++ ['>'] ++ rest =
      ('<' :: '!' :: word) ++ (body ++ '>' :: rest) := by simp
  have nine : ('<' :: '!' :: word).length = 9 := by simp [seven]
  simp only [doctype?, shape, List.length_cons, List.length_nil, Nat.reduceAdd,
    List.take_left' nine, List.drop_left' nine, cut_append rest unclosed]
  simp [spelled, List.isPrefixOf?]

theorem verbatim?_append {spaces : List Char} (blank : isBlankText spaces = true)
    (rest : List Char) :
    verbatim? ("<![CDATA[".toList ++ spaces ++ [']', ']', '>'] ++ rest) = some (spaces, rest) := by
  have unclosed : ¬ [']', ']', '>'] <:+: spaces := by
    intro inside
    have space := List.all_eq_true.mp blank '>' (inside.mem (by simp))
    contradiction
  have found : untilMark? [']', ']', '>'] (spaces ++ (']' :: ']' :: '>' :: rest)) =
      some (spaces, rest) := @untilMark?_first [']', ']'] spaces '>' (by decide) unclosed rest
  simp [verbatim?, List.isPrefixOf?, found]

/-- Ignored markup is read as one ignored event, or fails at an oversized numeral. -/
theorem read_ignored {values : List (List Char)} {markup : List Char}
    (ignored : Ignored values markup) :
    ∃ event, event.isIgnored = true ∧ IsReadAs values markup event := by
  cases ignored with
  | comment unclosed =>
      refine ⟨.skipped, rfl, isReadAs_nil fun length rest => ?_⟩
      exact read_skipped (by rw [comment?_append unclosed]; rfl)
  | instruction unclosed =>
      refine ⟨.skipped, rfl, isReadAs_nil fun length rest => ?_⟩
      apply read_skipped
      rw [instruction?_append unclosed]
      simp [comment?, doctype?, List.isPrefixOf?]
  | @doctype word body spelled unclosed =>
      refine ⟨.skipped, rfl, isReadAs_nil fun length rest => ?_⟩
      have uncommented : comment? (['<', '!'] ++ word ++ body ++ ['>'] ++ rest) = none := by
        cases word with
        | nil => contradiction
        | cons c word =>
            have other : '-' ≠ c := by
              rintro rfl
              exact absurd (List.cons.inj spelled).1 (by decide)
            simp [comment?, List.isPrefixOf?, other]
      apply read_skipped
      rw [doctype?_append spelled unclosed, uncommented]
      rfl
  | @verbatim spaces blank =>
      have hidden : (Event.verbatim spaces).isIgnored = true := by
        simpa [Event.isIgnored, Event.isBlank] using blank
      refine ⟨_, hidden, isReadAs_nil fun length rest => ?_⟩
      have other : (comment? ("<![CDATA[".toList ++ spaces ++ [']', ']', '>'] ++ rest) <|>
          doctype? ("<![CDATA[".toList ++ spaces ++ [']', ']', '>'] ++ rest) <|>
          instruction? ("<![CDATA[".toList ++ spaces ++ [']', ']', '>'] ++ rest)) = none := by
        simp [comment?, doctype?, instruction?, List.isPrefixOf?]
      rw [read, other, verbatim?_append blank]
  | @selfClosed tag start _ opened =>
      refine ⟨.skipped, rfl, fun length rest enough => ?_⟩
      have within : start.length ≤ length := by
        rw [List.length_append] at enough
        omega
      rw [List.append_assoc]
      exact read_dropped opened true rest within
  | @pair tag start body closing _ opened lacking blank =>
      refine ⟨.skipped, rfl, fun length rest enough => ?_⟩
      have within : start.length ≤ length := by
        simp only [List.length_append] at enough
        omega
      have shape : start ++ ['>'] ++ body ++ ['<', '/'] ++ tag ++ closing ++ ['>'] ++ rest =
          start ++ (Tag.ending false ++
            (body ++ '<' :: '/' :: (tag ++ (closing ++ '>' :: rest)))) := by
        simp [Tag.ending]
      have bracketless : '<' ∉ tag := by
        cases opened with
        | intro dropped => exact Tag.bracket_notMem dropped
      obtain ⟨readable, oversized⟩ := read_dropped opened false
        (body ++ '<' :: '/' :: (tag ++ (closing ++ '>' :: rest))) within
      rw [shape]
      refine ⟨fun none => ?_, oversized⟩
      rw [readable none, Tag.afterClosing?_first bracketless lacking blank]
      rfl

end Token

/-- Ignored markup begins with an angle bracket. -/
theorem head?_ignored {values : List (List Char)} {markup : List Char}
    (ignored : Ignored values markup) : markup.head? = some '<' := by
  cases ignored with
  | comment | instruction | doctype | verbatim => rfl
  | selfClosed opened => cases opened with | intro => rfl
  | pair opened => cases opened with | intro => rfl

end SvgComponent.Markup
