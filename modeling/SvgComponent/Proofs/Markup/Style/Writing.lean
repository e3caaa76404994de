/-
This file states how declarations are written as a style text and shows that they are read back.
-/

import SvgComponent.Proofs.Markup.Style.Cutting

namespace SvgComponent.Markup.Style

open Text

-- A property of all members of a list is decided by the members, not by all characters.
attribute [local instance (high)] List.decidableBAll

/-- In a flat text a semicolon stands only between two parentheses with no other one between. -/
inductive IsFlat : List Char → Prop
  | nil : IsFlat []
  | plain {c : Char} {rest : List Char} (ordinary : c ∉ [';', '(', ')']) (others : IsFlat rest) :
      IsFlat (c :: rest)
  | group {inner rest : List Char} (inside : ∀ c ∈ inner, IsPlain c) (others : IsFlat rest) :
      IsFlat ('(' :: (inner ++ ')' :: rest))

/-- A name can be seen and has no characters of its own meaning. -/
structure IsName (name : List Char) : Prop where
  visible : isBlankText name = false
  ordinary : ∀ c ∈ name, c ∉ [':', ';', '(', ')']

structure IsValue (value : List Char) : Prop where
  visible : isBlankText value = false
  flat : IsFlat value

/-- Each piece is a declaration with blank text around its name and its value, or blank. -/
inductive Written : List (String × String) → List (List Char) → Prop
  | nil : Written [] []
  | blank {spaces : List Char} {entries : List (String × String)} {pieces : List (List Char)}
      (blank : isBlankText spaces = true) (written : Written entries pieces) :
      Written entries (spaces :: pieces)
  | declaration {name value : String} {before left right after : List Char}
      {entries : List (String × String)} {pieces : List (List Char)} (named : IsName name.toList)
      (valued : IsValue value.toList) (blankBefore : isBlankText before = true)
      (blankLeft : isBlankText left = true) (blankRight : isBlankText right = true)
      (blankAfter : isBlankText after = true) (written : Written entries pieces) :
      Written ((name, value) :: entries)
        ((before ++ (name.toList ++ left) ++ ':' :: (right ++ (value.toList ++ after))) :: pieces)

/-- An entry without blank text at the ends of its name and its value. -/
def trimmed (entry : String × String) : String × String :=
  (String.ofList (trim entry.1.toList), String.ofList (trim entry.2.toList))

/-- Guarded texts may be put after one another. -/
theorem IsGuarded.append {first second : List Char} (guarded : IsGuarded first)
    (later : IsGuarded second) : IsGuarded (first ++ second) := by
  intro before after whole
  rcases List.append_eq_append_iff.mp whole with ⟨more, rfl, split⟩ | ⟨more, rfl, split⟩
  · exact later more after split
  · cases more with
    | nil => exact later [] after split.symm
    | cons c more =>
        obtain ⟨rfl, rfl⟩ := List.cons.inj split
        obtain ⟨front, back, rfl, plain⟩ := guarded before more rfl
        exact ⟨front, back ++ second, List.append_assoc _ _ _, plain⟩

theorem isGuarded_of_notMem {text : List Char} (absent : ';' ∉ text) : IsGuarded text := by
  rintro before after rfl
  simp at absent

/-- The semicolons in a pair of parentheses are guarded if no other parenthesis is in it. -/
theorem isGuarded_group {inner : List Char} (inside : ∀ c ∈ inner, IsPlain c) :
    IsGuarded ('(' :: (inner ++ [')'])) := by
  intro before after whole
  cases before with
  | nil => exact absurd (List.cons.inj whole).1 (by decide)
  | cons c before =>
      rcases List.append_eq_append_iff.mp (List.cons.inj whole).2 with
        ⟨more, -, split⟩ | ⟨more, rfl, split⟩
      · have single := congrArg List.length split
        cases more with
        | nil => exact absurd (List.cons.inj split).1 (by decide)
        | cons d more => simp at single
      · cases more with
        | nil => exact absurd (List.cons.inj split).1 (by decide)
        | cons d more =>
            obtain ⟨rfl, rfl⟩ := List.cons.inj split
            refine ⟨more, [], rfl, fun c member => inside c ?_⟩
            simp [member]

namespace IsFlat

theorem append {first second : List Char} (flat : IsFlat first) (later : IsFlat second) :
    IsFlat (first ++ second) := by
  induction flat with
  | nil => exact later
  | plain ordinary _ inductionHypothesis => exact .plain ordinary inductionHypothesis
  | @group inner rest inside _ inductionHypothesis =>
      have whole : IsFlat ('(' :: (inner ++ ')' :: (rest ++ second))) :=
        .group inside inductionHypothesis
      simpa using whole

/-- A text of ordinary characters is flat. -/
theorem ordinary {text : List Char} (ordinary : ∀ c ∈ text, c ∉ [';', '(', ')']) : IsFlat text := by
  induction text with
  | nil => exact .nil
  | cons c text inductionHypothesis =>
      obtain ⟨here, later⟩ := List.forall_mem_cons.mp ordinary
      exact .plain here (inductionHypothesis later)

theorem blank {spaces : List Char} (blank : isBlankText spaces = true) : IsFlat spaces := by
  apply ordinary
  intro c member marked
  have visible : ∀ c ∈ [';', '(', ')'], isBlank c = false := by decide
  exact notMem_blank blank (visible c marked) member

/-- The parentheses of a flat text are balanced. -/
theorem isBalanced {text : List Char} (flat : IsFlat text) : IsBalanced text := by
  induction flat with
  | nil => exact .plain nofun
  | @plain c rest ordinary _ inductionHypothesis =>
      have single : IsBalanced [c] := by
        apply IsBalanced.plain
        simp_all [IsPlain]
      exact single.append inductionHypothesis
  | @group inner rest inside _ inductionHypothesis =>
      have pair : IsBalanced ('(' :: (inner ++ [')'])) := (IsBalanced.plain inside).group
      simpa using pair.append inductionHypothesis

/-- Semicolons between parentheses separate nothing. -/
theorem isGuarded {text : List Char} (flat : IsFlat text) : IsGuarded text := by
  induction flat with
  | nil => exact isGuarded_of_notMem nofun
  | @plain c rest ordinary _ inductionHypothesis =>
      have single : IsGuarded [c] := isGuarded_of_notMem (by simp_all [eq_comm])
      exact single.append inductionHypothesis
  | @group inner rest inside _ inductionHypothesis =>
      simpa using (isGuarded_group inside).append inductionHypothesis

end IsFlat

/-- A visible text is not empty. -/
theorem ne_nil_of_visible {text : List Char} (visible : isBlankText text = false) : text ≠ [] := by
  rintro rfl
  contradiction

theorem entry?_blank {spaces : List Char} (blank : isBlankText spaces = true) :
    entry? spaces = none := by
  rw [Option.eq_none_iff_forall_ne_some]
  intro entry found
  obtain ⟨front, back, rfl, -⟩ := (entry?_eq_some_iff _ _).mp found
  exact notMem_blank blank (c := ':') (by decide) (by simp)

/-- Blank text around the name and the value of a declaration is trimmed. -/
theorem entry?_declaration {name value : String} {before left right after : List Char}
    (named : IsName name.toList) (valued : IsValue value.toList)
    (blankBefore : isBlankText before = true) (blankLeft : isBlankText left = true)
    (blankRight : isBlankText right = true) (blankAfter : isBlankText after = true) :
    entry? (before ++ (name.toList ++ left) ++ ':' :: (right ++ (value.toList ++ after))) =
      some (trimmed (name, value)) := by
  rw [entry?_eq_some_iff]
  refine ⟨_, _, rfl, ?_, ?_, ?_⟩
  · have visible : isBlank ':' = false := by decide
    simp only [List.mem_append, not_or]
    refine ⟨notMem_blank blankBefore visible, fun member => ?_, notMem_blank blankLeft visible⟩
    exact named.ordinary ':' member List.mem_cons_self
  · simp [ne_nil_of_visible valued.visible]
  · rw [trim_blank_append blankBefore blankLeft, trim_blank_append blankRight blankAfter]
    rfl

namespace Written

/-- Every piece is flat. -/
theorem isFlat {entries : List (String × String)} {pieces : List (List Char)}
    (written : Written entries pieces) : ∀ piece ∈ pieces, IsFlat piece := by
  induction written with
  | nil => exact nofun
  | blank blank _ inductionHypothesis =>
      exact List.forall_mem_cons.mpr ⟨.blank blank, inductionHypothesis⟩
  | declaration named valued blankBefore blankLeft blankRight blankAfter _ inductionHypothesis =>
      have name : IsFlat _ := .ordinary fun c member marked =>
        named.ordinary c member (List.mem_cons_of_mem ':' marked)
      have front := (IsFlat.blank blankBefore).append (name.append (.blank blankLeft))
      have back := (IsFlat.blank blankRight).append (valued.flat.append (.blank blankAfter))
      exact List.forall_mem_cons.mpr
        ⟨front.append (.plain (by decide) back), inductionHypothesis⟩

/-- The pieces that are not blank give the entries. -/
theorem entries_read {entries : List (String × String)} {pieces : List (List Char)}
    (written : Written entries pieces) : pieces.filterMap entry? = entries.map trimmed := by
  induction written with
  | nil => rfl
  | @blank spaces entries pieces blank _ inductionHypothesis =>
      rw [List.filterMap_cons, entry?_blank blank]
      exact inductionHypothesis
  | declaration named valued blankBefore blankLeft blankRight blankAfter _ inductionHypothesis =>
      rw [List.filterMap_cons, entry?_declaration named valued blankBefore blankLeft blankRight
        blankAfter, List.map_cons, inductionHypothesis]

end Written

/-- Flat pieces with semicolons between them are the declarations. -/
theorem declarations_flat {pieces : List (List Char)} (present : pieces ≠ [])
    (flat : ∀ piece ∈ pieces, IsFlat piece) : declarations ([';'].intercalate pieces) = pieces := by
  have single : ∀ piece ∈ pieces, declarations piece = [piece] := fun piece member =>
    declarations_guarded (flat piece member).isGuarded
  calc declarations ([';'].intercalate pieces)
      = pieces.flatMap declarations :=
        declarations_intercalate present fun piece member => (flat piece member).isBalanced
    _ = pieces.flatMap fun piece => [piece] := List.flatMap_congr single
    _ = pieces := List.flatMap_singleton' pieces

/-- A written style text has the mapping of its entries. -/
theorem Written.parse_eq {entries : List (String × String)} {pieces : List (List Char)}
    (written : Written entries pieces) :
    parse (String.ofList ([';'].intercalate pieces)) = Mapping.ofEntries (entries.map trimmed) := by
  rw [parse, String.toList_ofList]
  by_cases present : pieces = []
  · subst present
    cases written
    rfl
  · rw [declarations_flat present written.isFlat, written.entries_read]

/-- A style text of declarations is read back: the names without the blank text around them stand in
the order in which they occurred first, and each has the value of its last declaration, again
without the blank text around it. -/
theorem parse_written {entries : List (String × String)} {pieces : List (List Char)}
    (written : Written entries pieces) :
    let mapping := parse (String.ofList ([';'].intercalate pieces))
    Mapping.keys mapping = ((entries.map trimmed).map Prod.fst).eraseDups ∧
      ∀ name, mapping.valueAt? name =
        ((entries.map trimmed).filter fun entry => entry.1 = name).getLast?.map Prod.snd := by
  intro mapping
  have read : mapping = Mapping.ofEntries (entries.map trimmed) := written.parse_eq
  rw [read]
  exact ⟨Mapping.keys_ofEntries _, Mapping.valueAt?_ofEntries _⟩

/-- A name that is declared twice, with blank and empty declarations around a value that holds a
semicolon and a colon in its parentheses. -/
theorem parse_written_twice :
    let pieces := [" fill : red".toList, [], "background:\turl(a;b:c) ".toList, " \n".toList,
      "fill:b(;)".toList, []]
    Written [("fill", "red"), ("background", "url(a;b:c)"), ("fill", "b(;)")] pieces ∧
      Mapping.keys (parse (String.ofList ([';'].intercalate pieces))) = ["fill", "background"] ∧
      (parse (String.ofList ([';'].intercalate pieces))).valueAt? "fill" = some "b(;)" ∧
      (parse (String.ofList ([';'].intercalate pieces))).valueAt? "background" =
        some "url(a;b:c)" := by
  intro pieces
  have red : IsFlat "red".toList := .ordinary (by decide)
  have name : IsFlat "url".toList := .ordinary (by decide)
  have data : ∀ c ∈ "a;b:c".toList, IsPlain c := by decide
  have call : IsFlat "url(a;b:c)".toList := name.append (.group data .nil)
  have letter : IsFlat "b".toList := .ordinary (by decide)
  have semicolon : ∀ c ∈ ";".toList, IsPlain c := by decide
  have short : IsFlat "b(;)".toList := letter.append (.group semicolon .nil)
  have nothing : isBlankText [] = true := rfl
  have space : isBlankText [' '] = true := rfl
  have tab : isBlankText ['\t'] = true := rfl
  have written : Written [("fill", "red"), ("background", "url(a;b:c)"), ("fill", "b(;)")]
      pieces :=
    .declaration ⟨by decide, by decide⟩ ⟨by decide, red⟩ space space space nothing <|
    .blank rfl <|
    .declaration ⟨by decide, by decide⟩ ⟨by decide, call⟩ nothing nothing tab space <|
    .blank rfl <|
    .declaration ⟨by decide, by decide⟩ ⟨by decide, short⟩ nothing nothing nothing nothing <|
    .blank rfl .nil
  obtain ⟨keys, values⟩ := parse_written written
  refine ⟨written, keys.trans ?_, (values "fill").trans ?_, (values "background").trans ?_⟩
  · decide +kernel
  · decide +kernel
  · decide +kernel

end SvgComponent.Markup.Style
