/-
This file shows which job a run carries out.
-/

import Mathlib.Data.List.Basic
import SvgComponent.Command.Run

namespace SvgComponent.Command

/-- The job that arguments ask for: they name two places, of which the first has an entry, and their
query and configuration can be read. -/
structure Asks (tree : FileTree) (working : Path) (arguments : List String) (parsed : Arguments)
    (job : Job) : Prop where
  read : Arguments.read arguments = .ok parsed
  help : parsed.help = false
  places : ∃ path output, parsed.positional = [path, output] ∧
    place working path = .ok job.path ∧ place working output = .ok job.output
  present : tree.isPresent job.path = true
  config : parsed.config = none ∧ job.config = .object [] ∨
    ∃ argument file, parsed.config = some argument ∧ place working argument = .ok file ∧
      readConfig tree file = .ok job.config
  query : Query.parse (parsed.query.getD "") = .ok job.options
  skipOptimization : job.skipOptimization = parsed.skipOptimization
  preserveWhitespace : job.preserveWhitespace = parsed.preserveWhitespace
  mode : job.mode = if parsed.force then .replace else .refuse

theorem place_eq_ok {working path : Path} {argument : String} :
    place working argument = .ok path ↔
      (Path.join working argument).isValid = true ∧ Path.resolve working argument = path := by
  rw [place]
  split <;> simp [*]

theorem existing_eq_ok {tree : FileTree} {working path : Path} {argument : String} :
    existing tree working argument = .ok path ↔
      place working argument = .ok path ∧ tree.isPresent path = true := by
  rw [existing]
  cases place working argument with
  | error stop => simp [bind, Except.bind]
  | ok found =>
      simp only [bind, Except.bind, Except.ok.injEq]
      by_cases present : tree.isPresent found = true
      · rw [if_pos present]
        constructor
        · rintro same
          obtain rfl := Except.ok.inj same
          exact ⟨rfl, present⟩
        · rintro ⟨rfl, -⟩
          rfl
      · rw [if_neg present]
        constructor
        · nofun
        · rintro ⟨rfl, there⟩
          exact absurd there present

theorem isPresent_of_readConfig {tree : FileTree} {file : Path} {config : Value}
    (read : readConfig tree file = .ok config) : tree.isPresent file = true := by
  rw [readConfig] at read
  split at read
  · case _ found => simp [FileTree.isPresent, found]
  · contradiction

section Stages

variable (tree : FileTree) (working : Path)

/-- The configuration of a job, if its file can be read. -/
def configuration : Option Path → Except Fault Value
  | none => .ok (.object [])
  | some file => readConfig tree file

/-- The places of a run have to be named in the right number. -/
def checkPlaces : List String → Except Stop Unit
  | [] => .ok ()
  | path :: others => (existing tree working path).bind fun _ =>
      match others with
      | [] => .ok ()
      | output :: extras => (place working output).bind fun _ =>
          match extras with
          | [] => .ok ()
          | extra :: _ => .error (.usage (.extraArgument extra))

theorem check_eq (arguments : List String) :
    check tree working arguments =
      ((Arguments.read arguments).mapError .usage).bind fun parsed =>
        if parsed.help then .ok (parsed, none)
        else (parsed.config.mapM (existing tree working)).bind fun config =>
          (checkPlaces tree working parsed.positional).bind fun _ => .ok (parsed, config) := by
  unfold check
  cases Arguments.read arguments with
  | error error => rfl
  | ok parsed =>
      simp only [Except.mapError, bind, Except.bind]
      split
      · rfl
      · cases parsed.config.mapM (existing tree working) with
        | error stop => rfl
        | ok config =>
            rcases parsed.positional with _ | ⟨path, others⟩
            · rfl
            · simp only [checkPlaces, Except.bind]
              cases existing tree working path with
              | error stop => rfl
              | ok found =>
                  rcases others with _ | ⟨output, extras⟩
                  · rfl
                  · simp only
                    cases place working output with
                    | error stop => rfl
                    | ok named => cases extras <;> rfl

theorem prepare_eq (parsed : Arguments) (config : Option Path) :
    prepare tree working parsed config =
      (configuration tree config).bind fun value =>
        ((Query.parse (parsed.query.getD "")).mapError Fault.query).bind fun options =>
          match parsed.positional with
          | [path, output] => .ok ⟨Path.resolve working path, Path.resolve working output, value,
              options, parsed.skipOptimization, parsed.preserveWhitespace,
              if parsed.force then .replace else .refuse⟩
          | _ => .error .missingArgument := by
  unfold prepare
  cases config <;> cases parsed.query <;> rfl

end Stages

section

variable {tree : FileTree} {working : Path} {arguments : List String} {parsed : Arguments}
  {config : Option Path} {job : Job}

theorem bind_eq_ok {ε α β : Type} {first : Except ε α} {next : α → Except ε β} {result : β} :
    first.bind next = .ok result ↔ ∃ value, first = .ok value ∧ next value = .ok result := by
  cases first <;> simp [Except.bind]

theorem exists_of_isOk {ε α : Type} {result : Except ε α} (succeeded : result.isOk = true) :
    ∃ value, result = .ok value := by
  cases result with
  | error failure => exact absurd succeeded Bool.false_ne_true
  | ok value => exact ⟨value, rfl⟩

theorem mapError_eq_ok {ε δ α : Type} {first : Except ε α} {change : ε → δ} {result : α} :
    first.mapError change = .ok result ↔ first = .ok result := by
  cases first <;> simp [Except.mapError]

theorem checkPlaces_two {path output : String} :
    checkPlaces tree working [path, output] = .ok () ↔
      (∃ found, existing tree working path = .ok found) ∧
        ∃ named, place working output = .ok named := by
  simp [checkPlaces, bind_eq_ok]

theorem mapM_existing {argument : Option String} :
    argument.mapM (existing tree working) = .ok config ↔
      argument = none ∧ config = none ∨
        ∃ text file, argument = some text ∧ existing tree working text = .ok file ∧
          config = some file := by
  cases argument with
  | none => simp [pure, Except.pure, eq_comm]
  | some text =>
      cases found : existing tree working text with
      | error stop => simp [found]
      | ok file => simp [found, eq_comm]

/-- The job that arguments ask for is prepared. -/
theorem Asks.prepared (asks : Asks tree working arguments parsed job) :
    ∃ config, check tree working arguments = .ok (parsed, config) ∧
      prepare tree working parsed config = .ok job := by
  obtain ⟨path, output, positional, pathPlace, outputPlace⟩ := asks.places
  have found := existing_eq_ok.mpr ⟨pathPlace, asks.present⟩
  obtain ⟨config, listed, read⟩ : ∃ config,
      parsed.config.mapM (existing tree working) = .ok config ∧
        configuration tree config = .ok job.config := by
    rcases asks.config with ⟨absent, empty⟩ | ⟨argument, file, given, named, read⟩
    · exact ⟨none, mapM_existing.mpr (.inl ⟨absent, rfl⟩), congrArg Except.ok empty.symm⟩
    · refine ⟨some file, mapM_existing.mpr (.inr ⟨argument, file, given, ?_, rfl⟩), read⟩
      exact existing_eq_ok.mpr ⟨named, isPresent_of_readConfig read⟩
  refine ⟨config, ?_, ?_⟩
  · rw [check_eq, bind_eq_ok]
    refine ⟨parsed, mapError_eq_ok.mpr asks.read, ?_⟩
    rw [asks.help, if_neg Bool.false_ne_true, bind_eq_ok]
    refine ⟨config, listed, ?_⟩
    rw [positional, bind_eq_ok]
    exact ⟨(), checkPlaces_two.mpr ⟨⟨_, found⟩, _, outputPlace⟩, rfl⟩
  · rw [prepare_eq, bind_eq_ok]
    refine ⟨job.config, read, ?_⟩
    rw [bind_eq_ok]
    refine ⟨job.options, mapError_eq_ok.mpr asks.query, ?_⟩
    simp only [positional, (place_eq_ok.mp pathPlace).2, (place_eq_ok.mp outputPlace).2,
      ← asks.skipOptimization, ← asks.preserveWhitespace, ← asks.mode]

/-- A job that is prepared is what the arguments ask for, unless they ask for help. -/
theorem asks_of_prepared (help : parsed.help = false)
    (checked : check tree working arguments = .ok (parsed, config))
    (prepared : prepare tree working parsed config = .ok job) :
    Asks tree working arguments parsed job := by
  rw [check_eq, bind_eq_ok] at checked
  obtain ⟨parsed', read, checked⟩ := checked
  obtain rfl : parsed' = parsed := by
    split at checked
    · exact congrArg Prod.fst (Except.ok.inj checked)
    · simp only [bind_eq_ok] at checked
      obtain ⟨config', -, -, -, same⟩ := checked
      exact congrArg Prod.fst (Except.ok.inj same)
  rw [help, if_neg Bool.false_ne_true] at checked
  simp only [bind_eq_ok, Except.ok.injEq, Prod.mk.injEq, true_and] at checked
  obtain ⟨config', listed, _, checked, rfl⟩ := checked
  simp only [prepare_eq, bind_eq_ok, mapError_eq_ok] at prepared
  obtain ⟨value, readable, options, query, prepared⟩ := prepared
  split at prepared
  · case _ path output positional =>
      obtain rfl := Except.ok.inj prepared
      rw [positional, checkPlaces_two] at checked
      obtain ⟨⟨found, there⟩, named, outputPlace⟩ := checked
      obtain ⟨pathPlace, present⟩ := existing_eq_ok.mp there
      obtain rfl := (place_eq_ok.mp pathPlace).2
      obtain rfl := (place_eq_ok.mp outputPlace).2
      refine ⟨mapError_eq_ok.mp read, help, ⟨path, output, positional, pathPlace, outputPlace⟩,
        present, ?_, query, rfl, rfl, rfl⟩
      rcases mapM_existing.mp listed with ⟨absent, rfl⟩ | ⟨text, file, given, named', rfl⟩
      · exact .inl ⟨absent, (Except.ok.inj readable).symm⟩
      · exact .inr ⟨text, file, given, (existing_eq_ok.mp named').1, readable⟩
  · contradiction

/-- What the arguments ask for is carried out. -/
theorem Asks.run (asks : Asks tree working arguments parsed job) (library : Library) :
    Command.run library tree working arguments = (job.run library tree).plain := by
  obtain ⟨config, checked, prepared⟩ := asks.prepared
  simp only [Command.run, checked, asks.help, Bool.false_eq_true, if_false, prepared]

/-- A run that carries out no job changes nothing. -/
theorem run_cases (library : Library) (tree : FileTree) (working : Path) (arguments : List String) :
    (Command.run library tree working arguments).tree = tree ∨
      ∃ parsed job, Asks tree working arguments parsed job := by
  rw [Command.run]
  cases checked : check tree working arguments with
  | error stop => cases stop <;> exact .inl rfl
  | ok found =>
      obtain ⟨parsed, config⟩ := found
      cases help : parsed.help with
      | true => exact .inl (by simp [help])
      | false =>
          cases prepared : prepare tree working parsed config with
          | error fault => exact .inl (by simp [help, prepared])
          | ok job => exact .inr ⟨parsed, job, asks_of_prepared help checked prepared⟩

end

end SvgComponent.Command
