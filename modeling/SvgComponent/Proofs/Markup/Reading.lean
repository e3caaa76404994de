/-
This file shows that written tags and texts are read one by one, whatever follows them.
-/

import SvgComponent.Proofs.Markup.Numeral
import SvgComponent.Proofs.Markup.Writing

namespace SvgComponent.Markup

open Text

-- A property of all members of a list is decided by the members, not by all characters.
attribute [local instance (high)] List.decidableBAll

namespace Tag

/-- No blank character is part of a tag. -/
theorem isNameCharacter_blank {c : Char} (blank : isBlank c = true) :
    isNameCharacter c = false := by
  have visible : ∀ mark ∈ ['-', '.', ':'], isBlank mark = false := by decide
  have other : ∀ mark ∈ ['-', '.', ':'], c ≠ mark := by
    rintro mark member rfl
    rw [visible c member] at blank
    contradiction
  simp only [List.mem_cons, List.not_mem_nil, or_false, forall_eq_or_imp, forall_eq] at other
  simp [isNameCharacter, isWord_blank blank, other]

theorem isAttributeName_blank {c : Char} (blank : isBlank c = true) :
    isAttributeName c = false := by
  simp [isAttributeName, blank]

/-- A name is read as a whole if no name character follows it. -/
theorem name?_append {c : Char} {characters rest : List Char} (starts : isNameStart c = true)
    (all : ∀ x ∈ characters, isNameCharacter x = true)
    (stop : ∀ c, rest.head? = some c → isNameCharacter c = false) :
    name? (c :: characters ++ rest) = some (c :: characters, rest) := by
  rw [List.cons_append, name?, if_pos starts, takeWhile_before all stop, dropWhile_before all stop]

theorem name?_tag {tag : String} (named : IsTag tag) {rest : List Char}
    (stop : ∀ c, rest.head? = some c → isNameCharacter c = false) :
    name? (tag.toList ++ rest) = some (tag.toList, rest) := by
  obtain ⟨⟨c, characters, written, starts, all⟩, -⟩ := named
  rw [written]
  exact name?_append starts all stop

/-- The end of a start tag, which may be self-closed. -/
def ending : Bool → List Char
  | true => ['/', '>']
  | false => ['>']

/-- A start tag is read to its end after blank text. -/
theorem ending?_ending {spaces : List Char} (blank : isBlankText spaces = true) (selfClosed : Bool)
    (rest : List Char) :
    ending? (spaces ++ (ending selfClosed ++ rest)) = some (selfClosed, rest) := by
  rw [ending?, dropBlank_append _ blank]
  cases selfClosed with
  | true =>
      rw [ending, List.cons_append, dropBlank_visible _ (by decide)]
      rfl
  | false =>
      rw [ending, List.cons_append, dropBlank_visible _ (by decide)]
      rfl

/-- Blank text keeps a tag apart from what follows. -/
theorem stop_blank {spaces rest : List Char} (blank : isBlankText spaces = true)
    (stop : ∀ c, rest.head? = some c → isNameCharacter c = false) :
    ∀ c, (spaces ++ rest).head? = some c → isNameCharacter c = false := by
  intro c first
  rcases head?_blank_append blank first with space | later
  · exact isNameCharacter_blank space
  · exact stop c later

theorem stop_ending (selfClosed : Bool) (rest : List Char) :
    ∀ c, (ending selfClosed ++ rest).head? = some c → isNameCharacter c = false := by
  intro c first
  cases selfClosed with
  | true =>
      obtain rfl := Option.some.inj first
      decide
  | false =>
      obtain rfl := Option.some.inj first
      decide

/-- A start tag does not end where an attribute begins. -/
theorem ending?_attribute {name : String} (named : IsAttribute name) {before : List Char}
    (blank : isBlankText before = true) (rest : List Char) :
    ending? (before ++ (name.toList ++ rest)) = none := by
  obtain ⟨present, all⟩ := named
  obtain ⟨c, characters, written⟩ := List.exists_cons_of_ne_nil present
  rw [written] at all
  have first := all c List.mem_cons_self
  simp only [isAttributeName, Bool.and_eq_true, Bool.not_eq_true', bne_iff_ne] at first
  obtain ⟨⟨⟨⟨⟨⟨visible, -⟩, -⟩, -⟩, closing⟩, slash⟩, -⟩ := first
  rw [ending?, dropBlank_append _ blank, written, List.cons_append, dropBlank_visible _ visible]
  split
  · case _ same => exact absurd (List.cons.inj same).1 slash
  · case _ same => exact absurd (List.cons.inj same).1 closing
  · rfl

/-- A quoted value is read up to its quote. -/
theorem value?_quoted {quote : Char} (quoted : quote = '"' ∨ quote = '\'') {raw : List Char}
    (absent : quote ∉ raw) (rest : List Char) :
    value? (quote :: (raw ++ quote :: rest)) = some (raw, rest) := by
  rcases quoted with rfl | rfl
  · simp only [value?, quotedBy?, cut_append rest absent]
  · simp only [value?, quotedBy?, cut_append rest absent]

/-- A value is assigned after an equals sign with blank text around it. -/
theorem assigned?_quoted {left right raw : List Char} {quote : Char}
    (blankLeft : isBlankText left = true) (blankRight : isBlankText right = true)
    (quoted : quote = '"' ∨ quote = '\'') (absent : quote ∉ raw) (rest : List Char) :
    assigned? (left ++ '=' :: (right ++ quote :: (raw ++ quote :: rest))) = some (raw, rest) := by
  have visible : isBlank quote = false := by
    rcases quoted with rfl | rfl <;> decide
  rw [assigned?, dropBlank_append _ blankLeft, dropBlank_visible _ (by decide)]
  simp only
  rw [dropBlank_append _ blankRight, dropBlank_visible _ visible, value?_quoted quoted absent]

/-- A written attribute is read as its name and its raw value. -/
theorem attribute?_quoted {name : String} (named : IsAttribute name)
    {before left right raw : List Char} {quote : Char} (blank : isBlankText before = true)
    (blankLeft : isBlankText left = true) (blankRight : isBlankText right = true)
    (quoted : quote = '"' ∨ quote = '\'') (absent : quote ∉ raw) (rest : List Char) :
    attribute? (before ++ (name.toList ++
        (left ++ '=' :: (right ++ quote :: (raw ++ quote :: rest))))) =
      some ((name.toList, raw), rest) := by
  obtain ⟨present, all⟩ := named
  have stop : ∀ c, (left ++ '=' :: (right ++ quote :: (raw ++ quote :: rest))).head? = some c →
      isAttributeName c = false := by
    intro c first
    rcases head?_blank_append blankLeft first with space | equals
    · exact isAttributeName_blank space
    · obtain rfl := Option.some.inj equals
      decide
  have visible : dropBlank (name.toList ++
      (left ++ '=' :: (right ++ quote :: (raw ++ quote :: rest)))) =
      name.toList ++ (left ++ '=' :: (right ++ quote :: (raw ++ quote :: rest))) := by
    obtain ⟨c, characters, written⟩ := List.exists_cons_of_ne_nil present
    rw [written] at all ⊢
    have first := all c List.mem_cons_self
    apply dropBlank_visible
    by_contra blank
    rw [isAttributeName_blank (by simpa using blank)] at first
    contradiction
  simp only [attribute?, dropBlank_append _ blank, visible, takeWhile_before all stop,
    dropWhile_before all stop, assigned?_quoted blankLeft blankRight quoted absent]
  simpa using present

/-- Every value takes at least one character. -/
theorem length_quoted {values : List (List Char)} {inner : List Char}
    (attributed : QuotedAttributes values inner) : values.length ≤ inner.length := by
  induction attributed with
  | nil => exact Nat.le_refl 0
  | cons _ _ _ _ _ _ _ inductionHypothesis =>
      simp only [List.length_cons, List.length_append]
      omega

/-- Quoted attributes are read up to the end of their tag, or fail at an oversized numeral. -/
theorem attributes_quoted {values : List (List Char)} {inner : List Char}
    (attributed : QuotedAttributes values inner) {ending rest : List Char} {selfClosed : Bool}
    (ended : ending? ending = some (selfClosed, rest)) {fuel : Nat}
    (enough : values.length < fuel) :
    (¬ AnyOversized values →
      ∃ entries, attributes fuel (inner ++ ending) = .ok (entries, selfClosed, rest)) ∧
    (AnyOversized values → attributes fuel (inner ++ ending) = .error .oversizedNumeral) := by
  induction attributed generalizing fuel with
  | nil =>
      cases fuel with
      | zero => contradiction
      | succ fuel =>
          refine ⟨fun _ => ⟨[], ?_⟩, fun oversized => absurd oversized not_anyOversized_nil⟩
          rw [List.nil_append, attributes, ended]
  | @cons name before left right raw inner quote others named blank blankLeft blankRight quoted
      absent attributed inductionHypothesis =>
      cases fuel with
      | zero => contradiction
      | succ fuel =>
          obtain ⟨readable, oversized⟩ := inductionHypothesis (Nat.lt_of_succ_lt_succ enough)
          simp only [List.append_assoc, List.cons_append, List.nil_append]
          rw [attributes, ending?_attribute named blank,
            attribute?_quoted named blank blankLeft blankRight quoted absent, anyOversized_cons]
          cases decoded : CharacterReference.decode? raw with
          | none => simp [decoded]
          | some value =>
              simp only [reduceCtorEq, false_or, decoded]
              refine ⟨fun none => ?_, fun some => ?_⟩
              · obtain ⟨entries, read⟩ := readable none
                exact ⟨_, by rw [read]; rfl⟩
              · rw [oversized some]
                rfl

/-- Written attributes are read with their names and values up to the end of their tag. -/
theorem attributes_written {entries : List (String × String)} {values : List (List Char)}
    {inner : List Char} (written : WrittenAttributes entries values inner)
    (named : ∀ entry ∈ entries, IsAttribute entry.1) (readable : ¬ AnyOversized values)
    {ending rest : List Char} {selfClosed : Bool}
    (ended : ending? ending = some (selfClosed, rest)) {fuel : Nat}
    (enough : values.length < fuel) :
    attributes fuel (inner ++ ending) = .ok (entries, selfClosed, rest) := by
  induction written generalizing fuel with
  | nil =>
      cases fuel with
      | zero => contradiction
      | succ fuel => rw [List.nil_append, attributes, ended]
  | cons name value _ blank blankLeft blankRight quoted escaped _ inductionHypothesis =>
      cases fuel with
      | zero => contradiction
      | succ fuel =>
          obtain ⟨valid, named⟩ := List.forall_mem_cons.mp named
          rw [anyOversized_cons, not_or] at readable
          obtain ⟨decodable, readable⟩ := readable
          have others := inductionHypothesis named readable (Nat.lt_of_succ_lt_succ enough)
          have absent := escaped.quote_notMem quoted
          simp only [List.append_assoc, List.cons_append, List.nil_append]
          rw [attributes, ending?_attribute valid blank,
            attribute?_quoted valid blank blankLeft blankRight quoted absent]
          simp only [escaped.decode? (by simp) decodable, others]
          simp

end Tag

namespace Token

/-- A text is read up to the next angle bracket. -/
theorem read_text (length : Nat) {raw rest : List Char} (present : raw ≠ []) (absent : '<' ∉ raw)
    (stop : ∀ c, rest.head? = some c → c = '<') :
    read length (raw ++ rest) = .ok (.text raw, rest) := by
  cases raw with
  | nil => contradiction
  | cons c raw =>
      rw [List.mem_cons, not_or] at absent
      obtain ⟨other, absent⟩ := absent
      have noClosing : Tag.closing? (c :: (raw ++ rest)) = none := by
        simp [Tag.closing?, List.isPrefixOf?, other]
      have noOpening : Tag.opening? (c :: (raw ++ rest)) = none := by
        simp [Tag.opening?, List.isPrefixOf?, other]
      have all : ∀ x ∈ raw, decide (x ≠ '<') = true := by
        intro x member
        exact decide_eq_true (ne_of_mem_of_not_mem member absent)
      have stops : ∀ x, rest.head? = some x → decide (x ≠ '<') = false := by
        intro x first
        simp [stop x first]
      have plain : IsPlain (c :: (raw ++ rest)) := isPlain_text _ (Ne.symm other)
      rw [List.cons_append, read_plain length plain, noClosing, noOpening]
      simp only [text, takeWhile_before all stops, dropWhile_before all stops]

/-- An end tag is read with its name, and blank text at its end is dropped. -/
theorem read_closing (length : Nat) {tag : String} (named : IsTag tag) {closing : List Char}
    (blank : isBlankText closing = true) (rest : List Char) :
    read length ('<' :: '/' :: (tag.toList ++ (closing ++ '>' :: rest))) =
      .ok (.endTag tag, rest) := by
  have stop : ∀ c, (closing ++ '>' :: rest).head? = some c → Tag.isNameCharacter c = false :=
    Tag.stop_blank blank (Tag.stop_ending false rest)
  have absent : '>' ∉ closing := by
    intro member
    have space := List.all_eq_true.mp blank '>' member
    contradiction
  have found : Tag.closing? ('<' :: '/' :: (tag.toList ++ (closing ++ '>' :: rest))) =
      some (tag.toList, rest) := by
    simp [Tag.closing?, List.isPrefixOf?, Tag.name?_tag named stop, cut_append rest absent]
  rw [read_plain length (isPlain_tag _ (by decide)), found]
  simp only [String.ofList_toList]

/-- A markup with the given values is read as one event, or fails at an oversized numeral. -/
def IsReadAs (values : List (List Char)) (markup : List Char) (event : Event) : Prop :=
  ∀ length rest, markup.length ≤ length →
    (¬ AnyOversized values → read length (markup ++ rest) = .ok (event, rest)) ∧
    (AnyOversized values → read length (markup ++ rest) = .error .oversizedNumeral)

theorem isReadAs_nil {markup : List Char} {event : Event}
    (found : ∀ length rest, read length (markup ++ rest) = .ok (event, rest)) :
    IsReadAs [] markup event :=
  fun length rest _ => ⟨fun _ => found length rest, not_anyOversized_nil.elim⟩

/-- Written attributes begin with blank text, so that they do not belong to the tag. -/
theorem head?_written {attributes : List (String × String)} {values : List (List Char)}
    {inner ending : List Char} (written : WrittenAttributes attributes values inner) {c : Char}
    (first : (inner ++ ending).head? = some c) : isBlank c = true ∨ ending.head? = some c := by
  cases written with
  | nil => exact .inr first
  | cons name value spaced blank =>
      obtain ⟨space, spaces, rfl⟩ := List.exists_cons_of_ne_nil spaced
      obtain rfl : space = c := by simpa using first
      exact .inl (List.all_eq_true.mp blank _ List.mem_cons_self)

/-- A written start tag is read as a whole. -/
theorem read_start {tag : String} (named : IsTag tag) {attributes : List (String × String)}
    (valid : ∀ entry ∈ attributes, IsAttribute entry.1) {values : List (List Char)}
    {inner spaces : List Char} (written : WrittenAttributes attributes values inner)
    (blank : isBlankText spaces = true) (selfClosed : Bool) :
    IsReadAs values (['<'] ++ tag.toList ++ inner ++ spaces ++ Tag.ending selfClosed)
      (.startTag tag attributes selfClosed) := by
  intro length rest enough
  have stop : ∀ c, (inner ++ (spaces ++ (Tag.ending selfClosed ++ rest))).head? = some c →
      Tag.isNameCharacter c = false := by
    intro c first
    rcases head?_written written first with space | later
    · exact Tag.isNameCharacter_blank space
    · exact Tag.stop_blank blank (Tag.stop_ending selfClosed rest) c later
  have opened : Tag.opening? ('<' :: (tag.toList ++ (inner ++ (spaces ++
      (Tag.ending selfClosed ++ rest))))) =
        some (tag.toList, inner ++ (spaces ++ (Tag.ending selfClosed ++ rest))) := by
    simp [Tag.opening?, List.isPrefixOf?, Tag.name?_tag named stop]
  have ended := Tag.ending?_ending blank selfClosed rest
  have quoted := written.quoted valid
  have few : values.length < length + 1 := by
    have shorter := Tag.length_quoted quoted
    simp only [List.length_append] at enough
    omega
  have shape : ['<'] ++ tag.toList ++ inner ++ spaces ++ Tag.ending selfClosed ++ rest =
      '<' :: (tag.toList ++ (inner ++ (spaces ++ (Tag.ending selfClosed ++ rest)))) := by simp
  rw [shape, read_start_of_opening length opened, start]
  constructor
  · intro readable
    simp only [Tag.attributes_written written valid readable ended few, named.2,
      String.ofList_toList]
    rfl
  · intro oversized
    simp only [(Tag.attributes_quoted quoted ended few).2 oversized]

end Token

end SvgComponent.Markup
