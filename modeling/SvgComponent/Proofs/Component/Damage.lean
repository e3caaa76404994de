/-
This file shows that the check rejects every module that is cut off outside its literals or that has
lost a bracket.
-/

import SvgComponent.Proofs.Component.Assembly
import SvgComponent.Proofs.Component.Balance
import SvgComponent.Proofs.Component.Lexing

namespace SvgComponent.Component

open Markup

-- A property of all members of a list is decided by the members, not by all characters.
attribute [local instance (high)] List.decidableBAll

namespace Check

/-- In sound pieces all quotes belong to literals. -/
def Piece.IsSound : Piece → Prop
  | literal quote body => isQuote quote = true ∧ IsBody quote body
  | plain c => isQuote c = false

/-- A sound text is made of sound pieces. -/
def IsSound (text : List Char) : Prop :=
  ∃ pieces, (∀ piece ∈ pieces, piece.IsSound) ∧ Piece.textOf pieces = text

/-- A place is outside all literals if the text is cut into pieces before it and pieces after it. -/
def IsOutside (front back : List Char) : Prop :=
  ∃ before after, Lexed (front ++ back) (before ++ after) ∧ Piece.textOf before = front

theorem IsInside.isBody {quote : Char} (opening : isQuote quote = true) {body : List Char}
    (within : IsInside quote body) : IsBody quote body := by
  have found : afterLiteral? quote (body ++ [quote]) = some [] := by
    rw [within, afterLiteral?.eq_def]
    simp
  obtain ⟨other, inside, whole⟩ := (afterLiteral?_eq_some_iff opening).mp found
  rwa [List.append_cancel_right whole]

namespace IsSound

theorem append {first second : List Char} (front : IsSound first) (back : IsSound second) :
    IsSound (first ++ second) := by
  obtain ⟨before, sound, rfl⟩ := front
  obtain ⟨after, others, rfl⟩ := back
  exact ⟨before ++ after, List.forall_mem_append.mpr ⟨sound, others⟩, List.flatMap_append⟩

theorem plain {text : List Char} (unquoted : ∀ c ∈ text, isQuote c = false) : IsSound text := by
  refine ⟨text.map .plain, List.forall_mem_map.mpr unquoted, ?_⟩
  simp [Piece.textOf, Piece.text, List.flatMap_map]

theorem literal {quote : Char} {body : List Char} (opening : isQuote quote = true)
    (within : IsInside quote body) : IsSound (quote :: body ++ [quote]) := by
  refine ⟨[.literal quote body], ?_, List.append_nil _⟩
  exact List.forall_mem_singleton.mpr ⟨opening, within.isBody opening⟩

theorem join {texts : List String} (each : ∀ text ∈ texts, IsSound text.toList) :
    IsSound (String.join texts).toList := by
  rw [String.toList_join]
  induction texts with
  | nil => exact plain nofun
  | cons text texts inductionHypothesis =>
      obtain ⟨first, others⟩ := List.forall_mem_cons.mp each
      exact first.append (inductionHypothesis others)

end IsSound

/-- Whatever follows sound pieces, they are cut off in front of it. -/
theorem Lexed.after_sound {before after : List Piece} {back : List Char}
    (sound : ∀ piece ∈ before, piece.IsSound) (lexed : Lexed back after) :
    Lexed (Piece.textOf before ++ back) (before ++ after) := by
  induction before with
  | nil => exact lexed
  | cons piece before inductionHypothesis =>
      obtain ⟨first, others⟩ := List.forall_mem_cons.mp sound
      have later := inductionHypothesis others
      cases piece with
      | literal quote body =>
          have whole := Lexed.literal first.1 first.2 later
          simpa [Piece.textOf, Piece.text] using whole
      | plain c =>
          refine Lexed.plain ?_ later
          rw [beginsLiteral_iff]
          exact fun begins => Bool.false_ne_true (first.symm.trans begins.1)

theorem Lexed.of_sound {pieces : List Piece} (sound : ∀ piece ∈ pieces, piece.IsSound) :
    Lexed (Piece.textOf pieces) pieces := by
  simpa using after_sound sound .nil

/-- The place after a sound text is outside all literals. -/
theorem IsSound.isOutside {front : List Char} (sound : IsSound front) (back : List Char) :
    IsOutside front back := by
  obtain ⟨before, each, rfl⟩ := sound
  obtain ⟨after, lexed⟩ := exists_lexed back
  exact ⟨before, after, .after_sound each lexed, rfl⟩

/-- A sound text is cut into sound pieces at every place outside its literals. -/
theorem IsOutside.exists_sound {front back : List Char} (outside : IsOutside front back)
    (sound : IsSound (front ++ back)) :
    ∃ before after, (∀ piece ∈ before ++ after, piece.IsSound) ∧ Piece.textOf before = front ∧
      Piece.textOf after = back := by
  obtain ⟨before, after, lexed, rfl⟩ := outside
  obtain ⟨pieces, each, whole⟩ := sound
  have same : before ++ after = pieces := lexed.unique (whole ▸ .of_sound each)
  have rest := lexed.textOf_eq
  rw [Piece.textOf_append] at rest
  exact ⟨before, after, same ▸ each, rfl, List.append_cancel_left rest⟩

/-- A check that does not accept reports a fault. -/
theorem exists_fault {content : String} (rejected : check content ≠ .ok ()) :
    ∃ fault, check content = .error fault := by
  cases outcome : check content with
  | error fault => exact ⟨fault, rfl⟩
  | ok accepted => exact absurd outcome rejected

theorem hasMarker_of_check {content : String} (accepted : check content = .ok ()) :
    HasMarker content := by
  by_contra missing
  exact nomatch (check_of_no_marker missing).symm.trans accepted

/-- The brackets of an accepted text are nested once its literals are empty. -/
theorem isNested_of_check {content : String} (accepted : check content = .ok ()) :
    IsNested (brackets (strip content.toList)) := by
  obtain ⟨pieces, lexed⟩ := exists_lexed content.toList
  rw [lexed.strip_eq]
  exact ((check_eq_ok_iff lexed).mp accepted).2.2

/-- A bracket that is opened before a balanced text stays open within it. -/
theorem Balanced.scan_prefix {text : String} (balanced : Balanced text) {front : List Char}
    (part : front <+: text.toList) (opening : Char) : scan [opening] front ≠ .ok [] := by
  obtain ⟨back, whole⟩ := part
  have found := balanced []
  rw [← whole, List.nil_append, scan_append] at found
  cases within : scan [] front with
  | error fault =>
      rw [within] at found
      contradiction
  | ok opened =>
      rw [← List.nil_append [opening], scan_around within]
      simp

theorem isQuote_of_isBracket {c : Char} (bracket : isBracket c = true) : isQuote c = false := by
  rcases (isBracket_iff c).mp bracket with opens | ⟨opening, closes⟩
  · obtain ⟨closing, kind⟩ := exists_pair opens
    exact (by decide : ∀ pair ∈ pairs, isQuote pair.1 = false) _ kind
  · exact (by decide : ∀ pair ∈ pairs, isQuote pair.2 = false) _ (pair_of_opening? closes)

/-- The brackets of a nested text that has lost one of them are not nested. -/
theorem not_isNested_removed {front back : List Char} {bracket : Char}
    (kind : isBracket bracket = true) (nested : IsNested (brackets (front ++ bracket :: back))) :
    ¬ IsNested (brackets (front ++ back)) := by
  intro remaining
  have whole := nested.length_even
  have less := remaining.length_even
  rw [brackets_append, brackets_bracket kind, List.length_append, List.length_cons] at whole
  rw [brackets_append, List.length_append] at less
  omega

end Check

open Check

theorem IsAssembled.isSound {text : String} (assembled : IsAssembled text) :
    IsSound text.toList := by
  induction assembled with
  | template plain =>
      refine .plain fun c member => ?_
      have allowed := plain c member
      simp only [isTemplate, Bool.and_eq_true, Bool.not_eq_true'] at allowed
      exact allowed.1.2
  | literal content =>
      rw [Literal.write, String.toList_ofList]
      exact .literal (by decide) (IsInside.flatMap isInside_literal content.toList)
  | string content =>
      rw [Value.Compact.writeString, Value.Compact.write, String.toList_ofList]
      exact .literal (by decide) (IsInside.flatMap isInside_compact content.toList)
  | append front back firstSound secondSound =>
      rw [String.toList_append]
      exact firstSound.append secondSound

/-- Assembled lines have no quotes outside literals. -/
theorem isSound_lines {lines : List String} (each : ∀ line ∈ lines, IsAssembled line) :
    IsSound (String.join (lines.map fun line => line ++ "\n")).toList := by
  refine .join (List.forall_mem_map.mpr fun line member => ?_)
  rw [String.toList_append]
  exact (each line member).isSound.append (.plain (by decide))

section

variable {source outline : String} {front back : List Char}

/-- The pieces before a place leave a part of what the text is stripped to. Two characters after the
place leave at least as many. -/
theorem strip_front_isPrefix (sound : IsSound source.toList)
    (whole : source.toList = front ++ back) (outside : IsOutside front back)
    (long : 2 ≤ back.length) {inner ending : List Char} (short : ending.length = 2)
    (emptied : strip source.toList = inner ++ ending) : strip front <+: inner := by
  obtain ⟨before, after, each, rfl, rfl⟩ := outside.exists_sound (whole ▸ sound)
  obtain ⟨soundBefore, -⟩ := List.forall_mem_append.mp each
  rw [whole, ← Piece.textOf_append, (Lexed.of_sound each).strip_eq,
    Piece.emptiedOf_append] at emptied
  rw [(Lexed.of_sound soundBefore).strip_eq]
  apply List.prefix_of_prefix_length_le ⟨_, emptied⟩ (List.prefix_append _ _)
  have sizes := congrArg List.length emptied
  have rest := Piece.two_le_length_emptiedOf long
  simp only [List.length_append] at sizes
  omega

/-- The last brace of a module has a line end after it. -/
theorem two_le_of_brace (whole : (braced source).toList = front ++ back) (brace : '\x7d' ∈ back) :
    2 ≤ back.length := by
  rw [toList_braced] at whole
  rcases back with _ | ⟨c, _ | ⟨d, back⟩⟩
  · contradiction
  · obtain rfl := List.mem_singleton.mp brace
    have last := congrArg (fun text => text.reverse.head?) whole
    simp at last
  · simp

/-- A part of a module that ends before the last brace is rejected: either it has no marker yet, or
the first brace is still open. -/
theorem check_front (sound : IsSound (braced source).toList) (balanced : Balanced outline)
    (emptied : Empties (braced source) (braced outline))
    (whole : (braced source).toList = front ++ back) (outside : IsOutside front back)
    (brace : '\x7d' ∈ back) : check (String.ofList front) ≠ .ok () := by
  intro accepted
  have begins : "module.exports = \x7b".toList <+: (braced source).toList := by
    rw [toList_braced, List.append_assoc]
    exact List.prefix_append _ _
  rcases List.prefix_or_prefix_of_prefix (whole ▸ List.prefix_append _ _) begins with
    short | ⟨more, rfl⟩
  · have text : (String.ofList front).toList = front := String.toList_ofList
    have marker := hasMarker_of_check accepted
    rw [HasMarker, text] at marker
    have occurs := (Text.occurs_iff _ _).mpr (marker.trans short.isInfix)
    revert occurs
    decide +kernel
  · have stays : Strips "module.exports = \x7b".toList "module.exports = \x7b".toList :=
      .plain (by decide)
    have part := strip_front_isPrefix sound whole outside (two_le_of_brace whole brace) (by rfl)
      (emptied.strip_eq.trans (toList_braced outline))
    have closed := (scan_eq_nil_iff _).mpr (isNested_of_check accepted)
    rw [stays] at part
    rw [String.toList_ofList, stays, scan_append] at closed
    exact balanced.scan_prefix ((List.prefix_append_right_inj _).mp part) '\x7b' closed

/-- An accepted text is rejected once a bracket outside its literals is removed. -/
theorem check_removed (sound : IsSound source.toList) (accepted : check source = .ok ())
    {bracket : Char} (kind : isBracket bracket = true)
    (whole : source.toList = front ++ bracket :: back)
    (outside : IsOutside front (bracket :: back)) :
    check (String.ofList (front ++ back)) ≠ .ok () := by
  intro again
  obtain ⟨before, after, each, rfl, rest⟩ := outside.exists_sound (whole ▸ sound)
  obtain ⟨soundBefore, soundAfter⟩ := List.forall_mem_append.mp each
  cases after with
  | nil => contradiction
  | cons piece after =>
      obtain ⟨soundPiece, others⟩ := List.forall_mem_cons.mp soundAfter
      cases piece with
      | literal quote body =>
          obtain ⟨rfl, -⟩ := List.cons.inj rest
          exact Bool.false_ne_true ((isQuote_of_isBracket kind).symm.trans soundPiece.1)
      | plain c =>
          obtain ⟨rfl, others'⟩ := List.cons.inj rest
          obtain rfl : Piece.textOf after = back := others'
          have nested := isNested_of_check accepted
          have remaining := isNested_of_check again
          rw [whole, ← rest, ← Piece.textOf_append, (Lexed.of_sound each).strip_eq,
            Piece.emptiedOf_append] at nested
          rw [String.toList_ofList, ← Piece.textOf_append,
            (Lexed.of_sound (List.forall_mem_append.mpr ⟨soundBefore, others⟩)).strip_eq,
            Piece.emptiedOf_append] at remaining
          exact not_isNested_removed kind nested remaining

end

/-- The options of the root open a brace behind the literal of its tag. -/
theorem exists_options (fragments : Fragments) :
    ∃ front back, IsSound front ∧ fragments.source.toList = front ++ '\x7b' :: back ∧
      '\x7d' ∈ back := by
  have lines (front back : List String) :
      (String.join ((front ++ "      \x7b" :: (back ++ ["\x7d"])).map
          fun line => line ++ "\n")).toList =
        ((String.join (front.map fun line => line ++ "\n")).toList ++ "      ".toList) ++
          '\x7b' :: (("\n" ++ String.join (back.map fun line => line ++ "\n")).toList ++
            ['\x7d', '\n']) := by
    simp [String.toList_join]
  have first : ∀ line ∈ preamble ++ ["      'svg',"], IsAssembled line := by
    have indent : IsAssembled "      " := .template (by decide)
    have comma : IsAssembled "," := .template (by decide)
    have tag := (indent.append (.literal "svg")).append comma
    exact List.forall_mem_append.mpr ⟨isAssembled_preamble, List.forall_mem_singleton.mpr tag⟩
  have indent : IsSound "      ".toList := .plain (by decide)
  have whole := lines (preamble ++ ["      'svg',"])
    ((creation "'svg'" fragments).drop 2 ++ ending.dropLast)
  exact ⟨_, _, (isSound_lines first).append indent, whole,
    List.mem_append_right _ List.mem_cons_self⟩

/-- The module of a compiled root is rejected if it is cut off outside its literals while a closing
brace is still to come, and if any single bracket outside its literals is removed. -/
theorem check_damaged {preserve : Bool} {markup : String} {root : Element}
    (compiled : compile preserve markup = .ok root) :
    ∃ source, source? root = some source ∧
      (∀ front back, source.toList = front ++ back → '\x7d' ∈ back → IsOutside front back →
        ∃ fault, check (String.ofList front) = .error fault) ∧
      ∀ front bracket back, source.toList = front ++ bracket :: back →
        isBracket bracket = true → IsOutside front (bracket :: back) →
          ∃ fault, check (String.ofList (front ++ back)) = .error fault := by
  obtain ⟨tag, attributes, named, inside⟩ := compile_compiled compiled
  obtain ⟨source, found, emptied⟩ := source?_empties named inside
  obtain ⟨accepted, found', accepts⟩ := check_source compiled
  obtain rfl := Option.some.inj (found.symm.trans found')
  obtain ⟨fragments, each, rfl⟩ := Option.map_eq_some_iff.mp found
  have sound : IsSound fragments.source.toList :=
    isSound_lines (isAssembled_lines (areAssembled_ofElement named inside each))
  refine ⟨_, found, ?_, ?_⟩
  · intro front back whole brace outside
    have named : Balanced "''" := fun _ => rfl
    have balanced := balanced_bodyText named (areBalanced_outlineFragments
      (Skeleton.rootParts root.head) (Skeleton.ofNodes root.children))
    have text : fragments.source = braced (bodyText "'svg'" fragments) := moduleText_eq _ _
    have outline : outlineModule (Skeleton.ofRoot root) = braced (bodyText "''" (outlineFragments
      (Skeleton.rootParts root.head) (Skeleton.ofNodes root.children))) := moduleText_eq _ _
    rw [text] at sound emptied whole
    rw [outline] at emptied
    exact exists_fault (check_front sound balanced emptied whole outside brace)
  · intro front bracket back whole kind outside
    exact exists_fault (check_removed sound accepts kind whole outside)

/-- Both damages at a brace between two literals, of which the second one has a bracket and a quote
in it. -/
theorem check_damaged_title :
    ∃ root source front back,
      compile false "<svg><title>)'</title></svg>" = .ok root ∧ source? root = some source ∧
        source.toList = front ++ '\x7b' :: back ∧ IsOutside front ('\x7b' :: back) ∧
          (∃ fault, check (String.ofList front) = .error fault) ∧
            ∃ fault, check (String.ofList (front ++ back)) = .error fault := by
  have compiled : compile false "<svg><title>)'</title></svg>" =
      .ok ⟨Head.ofAttributes "svg" [], [.element (Head.ofAttributes "title" []) [.text ")'"]]⟩ :=
    rfl
  obtain ⟨source, found, cut, removed⟩ := check_damaged compiled
  obtain ⟨fragments, -, rfl⟩ := Option.map_eq_some_iff.mp found
  obtain ⟨front, back, sound, whole, brace⟩ := exists_options fragments
  have outside := sound.isOutside ('\x7b' :: back)
  exact ⟨_, _, front, back, compiled, found, whole, outside,
    cut front _ whole (List.mem_cons_of_mem _ brace) outside,
    removed front _ back whole (by decide) outside⟩

end SvgComponent.Component
