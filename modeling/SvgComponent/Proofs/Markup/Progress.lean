/-
This file shows that markup is read without loss. Every round of a loop moves forward, and what the
rounds take is the markup before the position they have reached.
-/

import Mathlib.Logic.Relation
import Mathlib.Order.WellFounded
import SvgComponent.Proofs.Markup.Building
import SvgComponent.Proofs.Markup.Token

namespace SvgComponent.Markup

open Relation

/-- Steps that move a position forward and never past a bound come to an end. -/
theorem exists_last {State : Type} {advances : State → State → Prop} {position : State → Nat}
    {bound : Nat} (forward : ∀ state next, advances state next →
      position state < position next ∧ position next ≤ bound) (first : State) :
    ∃ last, ReflTransGen advances first last ∧ ∀ next, ¬ advances last next := by
  obtain ⟨last, reached, least⟩ := (measure fun state => bound - position state).wf.has_min
    {state | ReflTransGen advances first state} ⟨first, .refl⟩
  refine ⟨last, reached, fun next advanced => least next (reached.tail advanced) ?_⟩
  obtain ⟨later, within⟩ := forward last next advanced
  change bound - position next < bound - position last
  omega

/-- A shorter end of the text at a position begins at a later position. -/
theorem position_forward {text rest : List Char} {position : Nat}
    (shorter : rest.length < (text.drop position).length) :
    position < text.length - rest.length ∧ text.length - rest.length ≤ text.length := by
  rw [List.length_drop] at shorter
  omega

/-- An end of the text at a position is the text at the position where it begins. -/
theorem drop_position {text rest : List Char} {position : Nat}
    (after : rest <:+ text.drop position) : text.drop (text.length - rest.length) = rest :=
  (List.suffix_iff_eq_drop.mp (after.trans (List.drop_suffix position text))).symm

namespace Tag

/-- More rounds than characters do not change the attributes. -/
theorem attributes_enough {text : List Char} {fuel : Nat} (enough : text.length ≤ fuel) :
    attributes fuel text = attributes text.length text := by
  apply Text.steps_enough _ _ enough
  · intro fuel
    cases fuel <;> rfl
  · intro first second c rest same
    rw [attributes, attributes]
    cases ending? (c :: rest) with
    | some found => rfl
    | none =>
        cases entry : attribute? (c :: rest) with
        | none => rfl
        | some found => simp only [same found.2 (Nat.le_of_lt_succ (attribute?_length entry))]

/-- How far the attributes of a start tag have been read. -/
structure Scan where
  position : Nat
  entries : List (String × String)

namespace Scan

/-- A round reads one attribute. There is none if the tag ends or cannot be read. -/
def round? (text : List Char) (scan : Scan) : Option Scan :=
  match ending? (text.drop scan.position), attribute? (text.drop scan.position) with
  | none, some ((name, raw), rest) =>
      (CharacterReference.decode? raw).map fun value =>
        ⟨text.length - rest.length, scan.entries ++ [(String.ofList name, String.ofList value)]⟩
  | _, _ => none

/-- What the tag comes to after the last round. -/
def outcome (text : List Char) (scan : Scan) :
    Except Fault (List (String × String) × Bool × List Char) :=
  match ending? (text.drop scan.position), attribute? (text.drop scan.position) with
  | some (selfClosed, rest), _ => .ok (scan.entries, selfClosed, rest)
  | none, none => .error .malformed
  | none, some _ => .error .oversizedNumeral

variable {text : List Char} {scan next : Scan}

/-- A round reads an attribute whose value can be decoded and goes on after it. -/
theorem round?_cases (read : scan.round? text = some next) :
    ∃ name raw value rest, ending? (text.drop scan.position) = none ∧
      attribute? (text.drop scan.position) = some ((name, raw), rest) ∧
      CharacterReference.decode? raw = some value ∧
      next = ⟨text.length - rest.length,
        scan.entries ++ [(String.ofList name, String.ofList value)]⟩ := by
  unfold round? at read
  split at read
  · case _ name raw rest ending entry =>
      obtain ⟨value, decoded, same⟩ := Option.map_eq_some_iff.mp read
      exact ⟨name, raw, value, rest, ending, entry, decoded, same.symm⟩
  · contradiction

/-- Every round moves forward and stays within the text. -/
theorem round?_forward (read : scan.round? text = some next) :
    scan.position < next.position ∧ next.position ≤ text.length := by
  obtain ⟨name, raw, value, rest, -, entry, -, rfl⟩ := round?_cases read
  exact position_forward (attribute?_length entry)

/-- What the tag comes to if its attributes are read on from here. -/
def remaining (text : List Char) (scan : Scan) :
    Except Fault (List (String × String) × Bool × List Char) :=
  (attributes (text.length + 1) (text.drop scan.position)).map fun read =>
    (scan.entries ++ read.1, read.2)

/-- A round does not change what the tag comes to. -/
theorem remaining_round (read : scan.round? text = some next) :
    next.remaining text = scan.remaining text := by
  obtain ⟨name, raw, value, rest, ending, entry, decoded, rfl⟩ := round?_cases read
  have after := attribute?_suffix entry
  have within : rest.length ≤ text.length := (after.trans (List.drop_suffix _ _)).length_le
  rw [remaining, remaining, drop_position after, attributes_enough (Nat.le_succ_of_le within),
    ← attributes_enough within, attributes.eq_2, ending, entry]
  simp only [decoded]
  cases attributes text.length rest with
  | error fault => rfl
  | ok read => simp [bind, Except.bind, pure, Except.pure, Except.map]

/-- Where no round can be made, the tag has come to its outcome. -/
theorem remaining_outcome (stuck : scan.round? text = none) :
    scan.remaining text = scan.outcome text := by
  rw [remaining, outcome, attributes.eq_2]
  unfold round? at stuck
  cases ending : ending? (text.drop scan.position) with
  | some found => simp [Except.map]
  | none =>
      cases entry : attribute? (text.drop scan.position) with
      | none => rfl
      | some found =>
          obtain ⟨⟨name, raw⟩, rest⟩ := found
          have undecoded : CharacterReference.decode? raw = none := by
            simpa [ending, entry] using stuck
          simp only [undecoded]
          rfl

/-- The rounds of every start tag come to an end, and to what its attributes are read as. -/
theorem exists_outcome (text : List Char) (position : Nat) :
    ∃ last, ReflTransGen (fun scan next => round? text scan = some next) ⟨position, []⟩ last ∧
      last.round? text = none ∧
      attributes (text.length + 1) (text.drop position) = last.outcome text := by
  obtain ⟨last, reached, ended⟩ :=
    exists_last (fun scan next => @round?_forward text scan next) ⟨position, []⟩
  have stuck : last.round? text = none := Option.eq_none_iff_forall_ne_some.mpr ended
  have same : last.remaining text = remaining text ⟨position, []⟩ := by
    clear ended stuck
    induction reached with
    | refl => rfl
    | tail _ read inductionHypothesis => exact (remaining_round read).trans inductionHypothesis
  refine ⟨last, reached, stuck, ?_⟩
  rw [← remaining_outcome stuck, same, remaining]
  cases attributes (text.length + 1) (text.drop position) <;> rfl

end Scan
end Tag

namespace Build

/-- What a build comes to with the events of a markup and the error at their end. -/
def complete (preserve : Bool) (build : Build) (read : List Event × Option Error) :
    Except Error Element :=
  (run preserve build read.1).bind fun build =>
    match read.2 with
    | some error => .error error
    | none => build.finish

theorem complete_cons (preserve : Bool) (build : Build) (event : Event)
    (read : List Event × Option Error) :
    complete preserve build (event :: read.1, read.2) =
      (step preserve build event).bind fun next => complete preserve next read := by
  rw [complete, run_cons]
  cases step preserve build event <;> rfl

end Build

/-- How far markup has been read, what has been built, and what the rounds have taken. -/
structure Progress where
  position : Nat
  build : Build
  slices : List (List Char)

namespace Progress

def start : Progress := ⟨0, .empty, []⟩

/-- A round reads one token and takes the step of its event. -/
def round (preserve : Bool) (text : List Char) (progress : Progress) : Except Error Progress := do
  let markup := text.drop progress.position
  let (event, rest) ← Token.read text.length markup
  let build ← progress.build.step preserve event
  let slice := Token.source ⟨markup, rest, event⟩
  return ⟨text.length - rest.length, build, progress.slices ++ [slice]⟩

/-- Rounds are made until the end of the text. -/
def Advances (preserve : Bool) (text : List Char) (progress next : Progress) : Prop :=
  progress.position < text.length ∧ progress.round preserve text = .ok next

/-- A progress that the rounds reach from the beginning of the text. -/
def Reached (preserve : Bool) (text : List Char) (progress : Progress) : Prop :=
  ReflTransGen (Advances preserve text) start progress

variable {preserve : Bool} {text : List Char} {progress next : Progress}

/-- A round that succeeds reads a token and builds on with its event. -/
theorem round_cases (read : progress.round preserve text = .ok next) :
    ∃ event rest build,
      Token.read text.length (text.drop progress.position) = .ok (event, rest) ∧
      progress.build.step preserve event = .ok build ∧
      next = ⟨text.length - rest.length, build, progress.slices ++
        [Token.source ⟨text.drop progress.position, rest, event⟩]⟩ := by
  unfold round at read
  cases token : Token.read text.length (text.drop progress.position) with
  | error error => simp [token, bind, Except.bind] at read
  | ok found =>
      obtain ⟨event, rest⟩ := found
      cases stepped : progress.build.step preserve event with
      | error error => simp [token, stepped, bind, Except.bind] at read
      | ok build =>
          simp only [token, stepped, bind, Except.bind, pure, Except.pure,
            Except.ok.injEq] at read
          exact ⟨event, rest, build, rfl, stepped, read.symm⟩

/-- A token inside the text leaves a shorter end of it. -/
theorem read_drop {length position : Nat} {rest : List Char} {event : Event}
    (unfinished : position < text.length)
    (read : Token.read length (text.drop position) = .ok (event, rest)) :
    rest <:+ text.drop position ∧ rest.length < (text.drop position).length := by
  obtain ⟨c, markup, shape⟩ := List.exists_cons_of_ne_nil
    (List.drop_eq_nil_iff.not.mpr unfinished.not_ge)
  rw [shape] at read ⊢
  have after := Token.read_suffix read
  exact ⟨after.trans (List.suffix_cons c markup), Nat.lt_succ_of_le after.length_le⟩

/-- Every round moves forward and stays within the text. -/
theorem round_forward (advanced : Advances preserve text progress next) :
    progress.position < next.position ∧ next.position ≤ text.length := by
  obtain ⟨event, rest, build, token, -, rfl⟩ := round_cases advanced.2
  exact position_forward (read_drop advanced.1 token).2

/-- A round takes the slice of an event and builds on with the event. -/
theorem round_slice (advanced : Advances preserve text progress next) :
    ∃ event slice, IsSlice event slice ∧ progress.build.step preserve event = .ok next.build ∧
      next.slices = progress.slices ++ [slice] := by
  obtain ⟨event, rest, build, token, stepped, rfl⟩ := round_cases advanced.2
  obtain ⟨c, markup, shape⟩ := List.exists_cons_of_ne_nil
    (List.drop_eq_nil_iff.not.mpr advanced.1.not_ge)
  rw [shape] at token ⊢
  obtain ⟨slice, whole, taken⟩ := Token.read_slice token
  rw [whole, Token.source_append]
  exact ⟨event, slice, taken, stepped, rfl⟩

/-- The slices that have been taken are the text before the position that has been reached. -/
structure IsLossless (text : List Char) (progress : Progress) : Prop where
  within : progress.position ≤ text.length
  whole : progress.slices.flatten = text.take progress.position

theorem isLossless_start (text : List Char) : start.IsLossless text :=
  ⟨Nat.zero_le _, rfl⟩

/-- A round takes the text from its position up to the next one. -/
theorem IsLossless.round (lossless : progress.IsLossless text)
    (advanced : Advances preserve text progress next) : next.IsLossless text := by
  obtain ⟨later, within⟩ := round_forward advanced
  obtain ⟨event, rest, build, token, -, rfl⟩ := round_cases advanced.2
  refine ⟨within, ?_⟩
  have shorter := (read_drop advanced.1 token).1.length_le
  have taken : (text.drop progress.position).length - rest.length =
      text.length - rest.length - progress.position := by
    rw [List.length_drop] at shorter ⊢
    omega
  rw [List.flatten_append, lossless.whole, List.flatten_singleton, Token.source, taken,
    ← List.take_add, Nat.add_sub_cancel' (Nat.le_of_lt later)]

theorem Reached.isLossless (reached : Reached preserve text progress) :
    progress.IsLossless text := by
  induction reached with
  | refl => exact isLossless_start text
  | tail _ advanced inductionHypothesis => exact inductionHypothesis.round advanced

/-- What the markup compiles to if it is read on from here. -/
def remaining (preserve : Bool) (text : List Char) (progress : Progress) :
    Except Error Element :=
  progress.build.complete preserve (Token.events text.length (text.drop progress.position))

theorem remaining_start (preserve : Bool) (text : List Char) :
    start.remaining preserve text = compile preserve (String.ofList text) := by
  rw [compile, String.toList_ofList]
  rfl

/-- A round does not change what the markup compiles to. -/
theorem remaining_round (advanced : Advances preserve text progress next) :
    next.remaining preserve text = progress.remaining preserve text := by
  obtain ⟨event, rest, build, token, stepped, rfl⟩ := round_cases advanced.2
  have after := (read_drop advanced.1 token).1
  obtain ⟨c, markup, shape⟩ := List.exists_cons_of_ne_nil
    (List.drop_eq_nil_iff.not.mpr advanced.1.not_ge)
  rw [remaining, remaining, drop_position after, shape, Token.events_cons (shape ▸ token),
    Build.complete_cons, stepped]
  rfl

/-- A round that fails makes the compilation fail. -/
theorem remaining_error {error : Error} (unfinished : progress.position < text.length)
    (failed : progress.round preserve text = .error error) :
    progress.remaining preserve text = .error error := by
  obtain ⟨c, markup, shape⟩ := List.exists_cons_of_ne_nil
    (List.drop_eq_nil_iff.not.mpr unfinished.not_ge)
  rw [remaining, shape]
  unfold round at failed
  rw [shape] at failed
  cases token : Token.read text.length (c :: markup) with
  | error first =>
      obtain rfl : first = error := by simpa [token, bind, Except.bind] using failed
      rw [Token.events_error token]
      rfl
  | ok found =>
      obtain ⟨event, rest⟩ := found
      cases stepped : progress.build.step preserve event with
      | ok build => simp [token, stepped, bind, Except.bind, pure, Except.pure] at failed
      | error first =>
          obtain rfl : first = error := by simpa [token, stepped, bind, Except.bind] using failed
          rw [Token.events_cons token, Build.complete_cons, stepped]
          rfl

theorem remaining_finish (finished : progress.position = text.length) :
    progress.remaining preserve text = progress.build.finish := by
  rw [remaining, finished, List.drop_length]
  rfl

theorem Reached.remaining (reached : Reached preserve text progress) :
    progress.remaining preserve text = compile preserve (String.ofList text) := by
  rw [← remaining_start]
  induction reached with
  | refl => rfl
  | tail _ advanced inductionHypothesis =>
      exact (remaining_round advanced).trans inductionHypothesis

/-- The rounds come to an end: the end of the text or the first error. -/
theorem exists_reached (preserve : Bool) (text : List Char) :
    ∃ last, Reached preserve text last ∧
      ((last.position = text.length ∧
          compile preserve (String.ofList text) = last.build.finish) ∨
        (last.position < text.length ∧ ∃ error, last.round preserve text = .error error ∧
          compile preserve (String.ofList text) = .error error)) := by
  obtain ⟨last, reached, ended⟩ :=
    exists_last (fun progress next => @round_forward preserve text progress next) start
  refine ⟨last, reached, ?_⟩
  rw [← Reached.remaining reached]
  rcases (Reached.isLossless reached).within.eq_or_lt with finished | unfinished
  · exact .inl ⟨finished, remaining_finish finished⟩
  · cases stepped : last.round preserve text with
    | error error => exact .inr ⟨unfinished, error, rfl, remaining_error unfinished stepped⟩
    | ok next => exact absurd ⟨unfinished, stepped⟩ (ended next)

end Progress

/-- Markup is read without loss. Every round of the two loops moves forward within the text, so both
loops come to an end, also on malformed markup. The slices that the rounds have taken are the text
before their position, and the whole text once it has been compiled. -/
theorem reading_lossless (preserve : Bool) (text : List Char) :
    (∀ progress next, Progress.Advances preserve text progress next →
      progress.position < next.position ∧ next.position ≤ text.length ∧
        ∃ event slice, IsSlice event slice ∧ progress.build.step preserve event = .ok next.build ∧
          next.slices = progress.slices ++ [slice]) ∧
    (∀ scan next : Tag.Scan, scan.round? text = some next →
      scan.position < next.position ∧ next.position ≤ text.length) ∧
    (∀ position, ∃ last : Tag.Scan,
      ReflTransGen (fun scan next => scan.round? text = some next) ⟨position, []⟩ last ∧
        last.round? text = none ∧
        Tag.attributes (text.length + 1) (text.drop position) = last.outcome text) ∧
    (∀ progress, Progress.Reached preserve text progress →
      progress.slices.flatten = text.take progress.position) ∧
    (∃ last, Progress.Reached preserve text last ∧
      ((last.position = text.length ∧
          compile preserve (String.ofList text) = last.build.finish) ∨
        (last.position < text.length ∧ ∃ error, last.round preserve text = .error error ∧
          compile preserve (String.ofList text) = .error error))) ∧
    ∀ root, compile preserve (String.ofList text) = .ok root →
      ∃ last, Progress.Reached preserve text last ∧ last.position = text.length ∧
        last.slices.flatten = text ∧ last.build.finish = .ok root := by
  refine ⟨fun progress next advanced => ?_, fun scan next => Tag.Scan.round?_forward,
    Tag.Scan.exists_outcome text, fun progress reached => reached.isLossless.whole,
    Progress.exists_reached preserve text, fun root compiled => ?_⟩
  · obtain ⟨later, within⟩ := Progress.round_forward advanced
    exact ⟨later, within, Progress.round_slice advanced⟩
  · obtain ⟨last, reached, ⟨finished, same⟩ | ⟨-, error, -, failed⟩⟩ :=
      Progress.exists_reached preserve text
    · have whole := reached.isLossless.whole
      rw [finished, List.take_length] at whole
      exact ⟨last, reached, finished, whole, same.symm.trans compiled⟩
    · rw [failed] at compiled
      contradiction

/-- A stray bracket is read as text, and an attribute without a value as its name. -/
theorem reading_lossless_stray :
    (∃ next, Progress.Advances false "<a b>1 < 2</a>".toList .start next ∧
      0 < next.position ∧ next.position ≤ 14 ∧
        next.slices.flatten = "<a b>1 < 2</a>".toList.take next.position) ∧
    (∃ next, Tag.Scan.round? "<a b>1 < 2</a>".toList ⟨2, []⟩ = some next ∧
      2 < next.position ∧ next.position ≤ 14) ∧
    ∃ root last, compile false "<a b>1 < 2</a>" = .ok root ∧
      Progress.Reached false "<a b>1 < 2</a>".toList last ∧ last.position = 14 ∧
        last.slices.flatten = "<a b>1 < 2</a>".toList ∧ last.build.finish = .ok root := by
  obtain ⟨rounds, attributed, -, taken, -, whole⟩ :=
    reading_lossless false "<a b>1 < 2</a>".toList
  have opened : Progress.Advances false "<a b>1 < 2</a>".toList .start
      ⟨5, ⟨[⟨Head.ofAttributes "a" [("b", "")], []⟩], none⟩, ["<a b>".toList]⟩ :=
    ⟨by decide, rfl⟩
  have named : Tag.Scan.round? "<a b>1 < 2</a>".toList ⟨2, []⟩ = some ⟨4, [("b", "")]⟩ := rfl
  have compiled : compile false "<a b>1 < 2</a>" =
      .ok ⟨Head.ofAttributes "a" [("b", "")], [.text "1 ", .text "< 2"]⟩ := rfl
  obtain ⟨later, within, -⟩ := rounds _ _ opened
  obtain ⟨last, reached, finished, same, built⟩ := whole _ compiled
  exact ⟨⟨_, opened, later, within, taken _ (.single opened)⟩,
    ⟨_, named, attributed _ _ named⟩, _, last, compiled, reached, finished, same, built⟩

end SvgComponent.Markup
