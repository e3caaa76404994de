/-
This file shows what the token of each event takes from the front of its markup. Every token leaves
a proper end of the markup.
-/

import SvgComponent.Markup.Token
import SvgComponent.Proofs.Text.Scan

namespace SvgComponent.Markup

open Text

namespace Tag

/-- A text consists of the name at its front and what stands after it. -/
theorem name?_parts {text name rest : List Char} (found : name? text = some (name, rest)) :
    text = name ++ rest := by
  cases text with
  | nil => contradiction
  | cons c text =>
      rw [name?, Option.ite_none_right_eq_some] at found
      obtain ⟨rfl, rfl⟩ := Prod.mk.inj (Option.some.inj found.2)
      rw [List.cons_append, List.takeWhile_append_dropWhile]

theorem name?_suffix {text name rest : List Char} (found : name? text = some (name, rest)) :
    rest <:+ text :=
  ⟨name, (name?_parts found).symm⟩

theorem quotedBy?_suffix {quote : Char} {text value rest : List Char}
    (found : quotedBy? quote text = some (value, rest)) : rest <:+ text := by
  unfold quotedBy? at found
  split at found
  · case _ read =>
      obtain ⟨-, rfl⟩ := Prod.mk.inj (Option.some.inj found)
      obtain ⟨front, -, rfl⟩ := cut_bracket (congrArg Prod.snd read)
      exact (List.suffix_cons _ _).trans (List.suffix_append front _)
  · contradiction

theorem value?_suffix {text value rest : List Char} (found : value? text = some (value, rest)) :
    rest <:+ text := by
  unfold value? at found
  split at found
  · exact (quotedBy?_suffix found).trans (List.suffix_cons _ _)
  · exact (quotedBy?_suffix found).trans (List.suffix_cons _ _)
  · simp only [Option.ite_none_left_eq_some, Option.some.injEq, Prod.mk.injEq] at found
    rw [← found.2.2]
    exact List.dropWhile_suffix _

theorem assigned?_suffix {text value rest : List Char}
    (found : assigned? text = some (value, rest)) : rest <:+ text := by
  unfold assigned? at found
  split at found
  · case _ after equals =>
      have inner := (value?_suffix found).trans (dropBlank_suffix after)
      have outer : after <:+ text := by
        have whole := dropBlank_suffix text
        rw [equals] at whole
        exact (List.suffix_cons _ _).trans whole
      exact inner.trans outer
  · contradiction

/-- An attribute takes its whole name, which has at least one character. -/
theorem attribute?_name {text rest : List Char} {entry : List Char × List Char}
    (found : attribute? text = some (entry, rest)) :
    entry.1 = (dropBlank text).takeWhile isAttributeName ∧ entry.1 ≠ [] ∧
      rest <:+ (dropBlank text).dropWhile isAttributeName := by
  simp only [attribute?, Option.ite_none_left_eq_some, List.isEmpty_iff] at found
  obtain ⟨present, found⟩ := found
  split at found
  · case _ read =>
      obtain ⟨rfl, rfl⟩ := Prod.mk.inj (Option.some.inj found)
      exact ⟨rfl, present, assigned?_suffix read⟩
  · obtain ⟨rfl, rfl⟩ := Prod.mk.inj (Option.some.inj found)
    exact ⟨rfl, present, List.suffix_rfl⟩

/-- An attribute leaves an end of its text. -/
theorem attribute?_suffix {text rest : List Char} {entry : List Char × List Char}
    (found : attribute? text = some (entry, rest)) : rest <:+ text :=
  (attribute?_name found).2.2.trans ((List.dropWhile_suffix _).trans (dropBlank_suffix text))

theorem attribute?_length {text rest : List Char} {entry : List Char × List Char}
    (found : attribute? text = some (entry, rest)) : rest.length < text.length := by
  obtain ⟨named, present, after⟩ := attribute?_name found
  rw [named] at present
  have name := List.length_pos_iff.mpr present
  have whole := congrArg List.length
    (List.takeWhile_append_dropWhile (p := isAttributeName) (l := dropBlank text))
  have left := after.length_le
  have around := (dropBlank_suffix text).length_le
  rw [List.length_append] at whole
  omega

/-- The end of a start tag is its bracket. -/
theorem ending?_bracket {text rest : List Char} {selfClosed : Bool}
    (found : ending? text = some (selfClosed, rest)) : '>' :: rest <:+ text := by
  have whole := dropBlank_suffix text
  unfold ending? at found
  split at found
  · case _ slash =>
      obtain ⟨-, rfl⟩ := Prod.mk.inj (Option.some.inj found)
      rw [slash] at whole
      exact (List.suffix_cons _ _).trans whole
  · case _ bracket =>
      obtain ⟨-, rfl⟩ := Prod.mk.inj (Option.some.inj found)
      rwa [bracket] at whole
  · contradiction

/-- A start tag ends, or an attribute is read and its value decoded before the others. -/
theorem attributes_cases {fuel : Nat} {text rest : List Char} {entries : List (String × String)}
    {selfClosed : Bool} (found : attributes (fuel + 1) text = .ok (entries, selfClosed, rest)) :
    (entries = [] ∧ ending? text = some (selfClosed, rest)) ∨
      ∃ name raw value others after, attribute? text = some ((name, raw), after) ∧
        attributes fuel after = .ok (others, selfClosed, rest) ∧
        entries = (String.ofList name, String.ofList value) :: others := by
  rw [attributes] at found
  cases ending : ending? text with
  | some read =>
      simp only [ending, Except.ok.injEq, Prod.mk.injEq] at found
      exact .inl ⟨found.1.symm, by rw [← found.2.1, ← found.2.2]⟩
  | none =>
      cases entry : attribute? text with
      | none => simp [ending, entry] at found
      | some read =>
          obtain ⟨⟨name, raw⟩, after⟩ := read
          simp only [ending, entry] at found
          cases decoded : CharacterReference.decode? raw with
          | none => simp [decoded] at found
          | some value =>
              cases others : attributes fuel after with
              | error fault => simp [decoded, others, bind, Except.bind] at found
              | ok read =>
                  simp only [decoded, others, bind, Except.bind, pure, Except.pure,
                    Except.ok.injEq, Prod.mk.injEq] at found
                  exact .inr ⟨name, raw, value, read.1, after, rfl,
                    others.trans (congrArg Except.ok (Prod.ext rfl found.2)), found.1.symm⟩

/-- The attributes of a start tag are read up to its bracket. -/
theorem attributes_bracket {fuel : Nat} {text rest : List Char}
    {entries : List (String × String)} {selfClosed : Bool}
    (found : attributes fuel text = .ok (entries, selfClosed, rest)) : '>' :: rest <:+ text := by
  induction fuel generalizing text entries with
  | zero => contradiction
  | succ fuel inductionHypothesis =>
      rcases attributes_cases found with ⟨-, ending⟩ | ⟨_, _, _, _, after, entry, others, -⟩
      · exact ending?_bracket ending
      · exact (inductionHypothesis others).trans (attribute?_suffix entry)

/-- The text after an end tag stands after its mark, its name, and a bracket. -/
theorem afterClosing?_shape {tag text rest : List Char}
    (found : afterClosing? tag text = some rest) :
    ∃ content spaces, isBlankText spaces = true ∧
      text = content ++ (['<', '/'] ++ tag ++ spaces ++ '>' :: rest) := by
  induction text with
  | nil => contradiction
  | cons c text inductionHypothesis =>
      -- An end tag that begins later has one more character before it.
      have later (found : afterClosing? tag text = some rest) :
          ∃ content spaces, isBlankText spaces = true ∧
            c :: text = content ++ (['<', '/'] ++ tag ++ spaces ++ '>' :: rest) := by
        obtain ⟨content, spaces, blank, shape⟩ := inductionHypothesis found
        exact ⟨c :: content, spaces, blank, by rw [shape]; rfl⟩
      rw [afterClosing?] at found
      split at found
      · exact later found
      · case _ after prefixed =>
          split at found
          · case _ ending bracket =>
              obtain rfl := Option.some.inj found
              refine ⟨[], after.takeWhile isBlank, List.all_takeWhile, ?_⟩
              have whole := List.isPrefixOf?_eq_some_iff_append_eq.mp prefixed
              have spaced := List.takeWhile_append_dropWhile (p := isBlank) (l := after)
              change after.dropWhile isBlank = _ at bracket
              rw [bracket] at spaced
              rw [← whole, List.nil_append, List.append_assoc _ _ ('>' :: ending), spaced]
          · exact later found

end Tag

/-- What the token of an event takes from its markup. -/
inductive IsSlice : Event → List Char → Prop
  | comment (body : List Char) :
      IsSlice .skipped (['<', '!', '-', '-'] ++ body ++ ['-', '-', '>'])
  | doctype {mark body : List Char} (spelled : mark.map Char.toUpper = "<!DOCTYPE".toList)
      (unclosed : '>' ∉ body) : IsSlice .skipped (mark ++ body ++ ['>'])
  | instruction (body : List Char) : IsSlice .skipped (['<', '?'] ++ body ++ ['?', '>'])
  | verbatim (content : List Char) :
      IsSlice (.verbatim content)
        (['<', '!', '[', 'C', 'D', 'A', 'T', 'A', '['] ++ content ++ [']', ']', '>'])
  | endTag (name : List Char) {more : List Char} (unclosed : '>' ∉ more) :
      IsSlice (.endTag (String.ofList name)) (['<', '/'] ++ name ++ more ++ ['>'])
  | startTag {name : List Char} (inner : List Char) (entries : List (String × String))
      (selfClosed : Bool) (kept : Token.isDropped name = false) :
      IsSlice (.startTag (String.ofList name) entries selfClosed)
        (['<'] ++ name ++ inner ++ ['>'])
  | droppedTag {name : List Char} (inner : List Char) (dropped : Token.isDropped name = true) :
      IsSlice .skipped (['<'] ++ name ++ inner ++ ['>'])
  | droppedElement {name spaces : List Char} (inner content : List Char)
      (dropped : Token.isDropped name = true) (blank : isBlankText spaces = true) :
      IsSlice .skipped (['<'] ++ name ++ inner ++ ['>'] ++ content ++
        (['<', '/'] ++ name ++ spaces ++ ['>']))
  | text {c : Char} {raw : List Char} (plain : '<' ∉ raw) : IsSlice (.text (c :: raw)) (c :: raw)

/-- No slice is empty. -/
theorem IsSlice.ne_nil {event : Event} {slice : List Char} (taken : IsSlice event slice) :
    slice ≠ [] := by
  cases taken <;> simp

namespace Token

theorem comment?_shape {text rest : List Char} (found : comment? text = some rest) :
    ∃ body, text = ['<', '!', '-', '-'] ++ body ++ ['-', '-', '>'] ++ rest := by
  obtain ⟨body, opened, found⟩ := Option.bind_eq_some_iff.mp found
  obtain ⟨⟨inner, after⟩, closed, same⟩ := Option.bind_eq_some_iff.mp found
  obtain rfl := Option.some.inj same
  exact ⟨inner, marked_shape opened closed⟩

theorem instruction?_shape {text rest : List Char} (found : instruction? text = some rest) :
    ∃ body, text = ['<', '?'] ++ body ++ ['?', '>'] ++ rest := by
  obtain ⟨body, opened, found⟩ := Option.bind_eq_some_iff.mp found
  obtain ⟨⟨inner, after⟩, closed, same⟩ := Option.bind_eq_some_iff.mp found
  obtain rfl := Option.some.inj same
  exact ⟨inner, marked_shape opened closed⟩

theorem doctype?_shape {text rest : List Char} (found : doctype? text = some rest) :
    ∃ mark body, mark.map Char.toUpper = "<!DOCTYPE".toList ∧ '>' ∉ body ∧
      text = mark ++ body ++ '>' :: rest := by
  obtain ⟨more, opened, found⟩ := Option.bind_eq_some_iff.mp found
  obtain ⟨body, unclosed, shape⟩ := cut_bracket found
  refine ⟨text.take 9, body, ?_, unclosed, ?_⟩
  · have whole := List.isPrefixOf?_eq_some_iff_append_eq.mp opened
    have length := congrArg List.length whole
    simp only [List.length_append, List.length_map, List.length_take, List.length_cons,
      List.length_nil] at length
    have nothing : more = [] := List.eq_nil_of_length_eq_zero (by omega)
    rw [nothing, List.append_nil] at whole
    exact whole.symm
  · rw [List.append_assoc, ← shape]
    exact (List.take_append_drop 9 text).symm

theorem verbatim?_shape {text content rest : List Char}
    (found : verbatim? text = some (content, rest)) :
    text = ['<', '!', '[', 'C', 'D', 'A', 'T', 'A', '['] ++ content ++ [']', ']', '>'] ++ rest := by
  obtain ⟨body, opened, closed⟩ := Option.bind_eq_some_iff.mp found
  exact marked_shape opened closed

theorem closing?_shape {text name rest : List Char}
    (found : Tag.closing? text = some (name, rest)) :
    ∃ more, '>' ∉ more ∧ text = ['<', '/'] ++ name ++ more ++ '>' :: rest := by
  obtain ⟨body, opened, found⟩ := Option.bind_eq_some_iff.mp found
  obtain ⟨⟨read, inner⟩, named, found⟩ := Option.bind_eq_some_iff.mp found
  obtain ⟨after, closed, same⟩ := Option.bind_eq_some_iff.mp found
  obtain ⟨rfl, rfl⟩ := Prod.mk.inj (Option.some.inj same)
  obtain ⟨more, unclosed, shape⟩ := cut_bracket closed
  refine ⟨more, unclosed, ?_⟩
  rw [← List.isPrefixOf?_eq_some_iff_append_eq.mp opened, Tag.name?_parts named, shape]
  simp

theorem opening?_shape {text name rest : List Char}
    (found : Tag.opening? text = some (name, rest)) : text = ['<'] ++ name ++ rest := by
  obtain ⟨body, opened, named⟩ := Option.bind_eq_some_iff.mp found
  rw [← List.isPrefixOf?_eq_some_iff_append_eq.mp opened, Tag.name?_parts named]
  simp

/-- A start tag takes its markup up to its bracket. A dropped element is taken with its content. -/
theorem start_slice {length : Nat} {markup tag text rest : List Char} {event : Event}
    (found : start length markup tag text = .ok (event, rest)) :
    ∃ slice, ['<'] ++ tag ++ text = slice ++ rest ∧ IsSlice event slice := by
  simp only [start] at found
  split at found
  · contradiction
  · contradiction
  · case _ entries selfClosed after read =>
      obtain ⟨inner, rfl⟩ := Tag.attributes_bracket read
      split at found
      · case _ dropped =>
          split at found
          · obtain ⟨rfl, rfl⟩ := Prod.mk.inj (Except.ok.inj found)
            exact ⟨_, by simp, .droppedTag inner dropped⟩
          · split at found
            · case _ closed =>
                obtain ⟨rfl, rfl⟩ := Prod.mk.inj (Except.ok.inj found)
                obtain ⟨content, spaces, blank, rfl⟩ := Tag.afterClosing?_shape closed
                exact ⟨_, by simp, .droppedElement inner content dropped blank⟩
            · contradiction
      · case _ kept =>
          obtain ⟨rfl, rfl⟩ := Prod.mk.inj (Except.ok.inj found)
          exact ⟨_, by simp, .startTag inner entries selfClosed (by simpa using kept)⟩

/-- A start tag makes an event with its name and attributes, unless its element is dropped. -/
theorem start_event {length : Nat} {markup tag text rest : List Char} {event : Event}
    (found : start length markup tag text = .ok (event, rest)) :
    event = .skipped ∨ ∃ entries selfClosed,
      event = .startTag (String.ofList tag) entries selfClosed ∧ isDropped tag = false ∧
        Tag.attributes (length + 1) text = .ok (entries, selfClosed, rest) := by
  simp only [start] at found
  split at found
  · contradiction
  · contradiction
  · case _ entries selfClosed _ read =>
      split at found
      · split at found
        · exact .inl (Prod.mk.inj (Except.ok.inj found)).1.symm
        · split at found
          · exact .inl (Prod.mk.inj (Except.ok.inj found)).1.symm
          · contradiction
      · case _ shown =>
          obtain ⟨rfl, rfl⟩ := Prod.mk.inj (Except.ok.inj found)
          exact .inr ⟨entries, selfClosed, rfl, by simpa using shown, read⟩

/-- An event is read by one of the readers, each tried only where those before it fail. -/
theorem read_cases {length : Nat} {markup rest : List Char} {event : Event}
    (found : read length markup = .ok (event, rest)) :
    (event = .skipped ∧ (comment? markup = some rest ∨ doctype? markup = some rest ∨
      instruction? markup = some rest)) ∨
    (∃ content, event = .verbatim content ∧ verbatim? markup = some (content, rest)) ∨
    (∃ name, event = .endTag (String.ofList name) ∧ Tag.closing? markup = some (name, rest)) ∨
    (∃ name after, Tag.opening? markup = some (name, after) ∧
      start length markup name after = .ok (event, rest)) ∨
    text markup = (event, rest) := by
  unfold read at found
  split at found
  · case _ ignored =>
      obtain ⟨rfl, rfl⟩ := Prod.mk.inj (Except.ok.inj found)
      simp only [Option.orElse_eq_orElse, Option.orElse_eq_or, Option.or_eq_some_iff] at ignored
      rcases ignored with comment | ⟨-, doctype | ⟨-, instruction⟩⟩
      · exact .inl ⟨rfl, .inl comment⟩
      · exact .inl ⟨rfl, .inr (.inl doctype)⟩
      · exact .inl ⟨rfl, .inr (.inr instruction)⟩
  · split at found
    · case _ content _ verbatim =>
        obtain ⟨rfl, rfl⟩ := Prod.mk.inj (Except.ok.inj found)
        exact .inr (.inl ⟨content, rfl, verbatim⟩)
    · case _ name _ _ closing =>
        obtain ⟨rfl, rfl⟩ := Prod.mk.inj (Except.ok.inj found)
        exact .inr (.inr (.inl ⟨name, rfl, closing⟩))
    · case _ name after _ _ opening =>
        exact .inr (.inr (.inr (.inl ⟨name, after, opening, found⟩)))
    · exact .inr (.inr (.inr (.inr (Except.ok.inj found))))

/-- Every token takes the slice of its event. -/
theorem read_slice {length : Nat} {c : Char} {markup rest : List Char} {event : Event}
    (found : read length (c :: markup) = .ok (event, rest)) :
    ∃ slice, c :: markup = slice ++ rest ∧ IsSlice event slice := by
  rcases read_cases found with ⟨rfl, comment | doctype | instruction⟩ | ⟨content, rfl, verbatim⟩ |
    ⟨name, rfl, closing⟩ | ⟨name, after, opening, started⟩ | plain
  · obtain ⟨body, shape⟩ := comment?_shape comment
    exact ⟨_, shape, .comment body⟩
  · obtain ⟨mark, body, spelled, unclosed, shape⟩ := doctype?_shape doctype
    exact ⟨_, shape.trans (List.append_cons _ _ _), .doctype spelled unclosed⟩
  · obtain ⟨body, shape⟩ := instruction?_shape instruction
    exact ⟨_, shape, .instruction body⟩
  · exact ⟨_, verbatim?_shape verbatim, .verbatim content⟩
  · obtain ⟨more, unclosed, shape⟩ := closing?_shape closing
    exact ⟨_, shape.trans (List.append_cons _ _ _), .endTag name unclosed⟩
  · rw [opening?_shape opening]
    exact start_slice started
  · obtain ⟨rfl, rfl⟩ := Prod.mk.inj plain
    refine ⟨c :: markup.takeWhile (· ≠ '<'), ?_, .text fun member => ?_⟩
    · rw [List.cons_append, List.takeWhile_append_dropWhile]
    · simpa using List.all_eq_true.mp List.all_takeWhile '<' member

/-- A token takes at least one character and leaves an end of its markup. -/
theorem read_suffix {length : Nat} {c : Char} {markup rest : List Char} {event : Event}
    (found : read length (c :: markup) = .ok (event, rest)) : rest <:+ markup := by
  obtain ⟨slice, whole, taken⟩ := read_slice found
  cases slice with
  | nil => exact absurd rfl taken.ne_nil
  | cons x slice => exact ⟨slice, (List.cons.inj whole).2.symm⟩

/-- The source of a token is what stands before the rest of its markup. -/
theorem source_append (slice rest : List Char) (event : Event) :
    source ⟨slice ++ rest, rest, event⟩ = slice := by
  simp [source]

example : (tokens "<a>1 < 2<![CDATA[3]]></a>".toList).1.map (String.ofList ∘ source) =
    ["<a>", "1 ", "< 2", "<![CDATA[3]]>", "</a>"] := by decide

end Token
end SvgComponent.Markup
