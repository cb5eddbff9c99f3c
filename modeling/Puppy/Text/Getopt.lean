import Mathlib.Data.List.Basic

/-!
# getopt

The options of a command line as `getopt` delivers them: options are single
characters behind a dash, several may share one, and one that takes an argument
takes the rest of its group or the next word.  Operands may stand between
options and come last; a double dash ends the options.  A command line written
in the plainest way is read back.
-/

namespace Getopt

universe u

variable {α : Type u} [DecidableEq α]

/-- The options a program knows, and which of them take an argument. -/
structure Optstring (α : Type u) where
  dash : α
  takes : α → Option Bool

/-- A result of `getopt` before the last one. -/
inductive Opt (α : Type u) where
  | plain (char : α)
  | withArgument (char : α) (optarg : List α)
  /-- `?`, for an option that is not known or lacks its argument. -/
  | unknown
  deriving DecidableEq

/-- The options that share a dash, and the one among them that still waits for
its argument. -/
def group (optstring : Optstring α) : List α → List (Opt α) × Option α
  | [] => ([], none)
  | char :: rest =>
      match optstring.takes char with
      | none => (.unknown :: (group optstring rest).1, (group optstring rest).2)
      | some false => (.plain char :: (group optstring rest).1, (group optstring rest).2)
      | some true =>
          if rest = [] then ([], some char) else ([.withArgument char rest], none)

/-- All results of `getopt`, and the operands.  `waiting` is the option that
waits for its argument. -/
def getopt (optstring : Optstring α) (waiting : Option α) :
    List (List α) → List (Opt α) × List (List α)
  | [] => (if waiting.isSome then [.unknown] else [], [])
  | word :: rest =>
      match waiting, word with
      | some char, optarg =>
          (.withArgument char optarg :: (getopt optstring none rest).1,
            (getopt optstring none rest).2)
      | none, first :: second :: chars =>
          if first = optstring.dash then
            if second = optstring.dash ∧ chars = [] then ([], rest)
            else
              ((group optstring (second :: chars)).1 ++
                  (getopt optstring (group optstring (second :: chars)).2 rest).1,
                (getopt optstring (group optstring (second :: chars)).2 rest).2)
          else ((getopt optstring none rest).1, word :: (getopt optstring none rest).2)
      | none, _ => ((getopt optstring none rest).1, word :: (getopt optstring none rest).2)

/-- An option in words of its own. -/
def Opt.words (optstring : Optstring α) : Opt α → List (List α)
  | .plain char => [[optstring.dash, char]]
  | .withArgument char optarg => [[optstring.dash, char], optarg]
  | .unknown => []

/-- The option is one that the program knows, with an argument if it takes one. -/
def Opt.Known (optstring : Optstring α) : Opt α → Prop
  | .plain char => char ≠ optstring.dash ∧ optstring.takes char = some false
  | .withArgument char _ => char ≠ optstring.dash ∧ optstring.takes char = some true
  | .unknown => False

/-- Options in words of their own, a double dash, and the operands. -/
def commandLine (optstring : Optstring α) (options : List (Opt α)) (operands : List (List α)) :
    List (List α) :=
  options.flatMap (Opt.words optstring) ++ [optstring.dash, optstring.dash] :: operands

variable {optstring : Optstring α}

/-- A dash with one character that is an option. -/
theorem getopt_single {char : α} (notDash : char ≠ optstring.dash) (rest : List (List α)) :
    getopt optstring none ([optstring.dash, char] :: rest) =
      ((group optstring [char]).1 ++ (getopt optstring (group optstring [char]).2 rest).1,
        (getopt optstring (group optstring [char]).2 rest).2) := by
  rw [getopt, if_pos rfl, if_neg fun ends => notDash ends.1]

/-- Known options are read back, whatever comes behind them. -/
theorem getopt_words {option : Opt α} (known : option.Known optstring) (rest : List (List α)) :
    getopt optstring none (option.words optstring ++ rest) =
      (option :: (getopt optstring none rest).1, (getopt optstring none rest).2) := by
  cases option with
  | plain char =>
      obtain ⟨notDash, plain⟩ := known
      have options : group optstring [char] = ([.plain char], none) := by
        simp only [group, plain]
      rw [Opt.words, List.cons_append, List.nil_append, getopt_single notDash, options]
      rfl
  | withArgument char optarg =>
      obtain ⟨notDash, takes⟩ := known
      have options : group optstring [char] = ([], some char) := by
        simp only [group, takes, if_true]
      rw [Opt.words, List.cons_append, List.cons_append, List.nil_append, getopt_single notDash,
        options]
      rfl
  | unknown => exact known.elim

/-- A plain command line is read back. -/
theorem getopt_commandLine {options : List (Opt α)}
    (known : ∀ option ∈ options, option.Known optstring) (operands : List (List α)) :
    getopt optstring none (commandLine optstring options operands) = (options, operands) := by
  induction options with
  | nil =>
      rw [commandLine, List.flatMap_nil, List.nil_append, getopt, if_pos rfl,
        if_pos ⟨rfl, rfl⟩]
  | cons option options ih =>
      rw [List.forall_mem_cons] at known
      have rest := ih known.2
      simp only [commandLine, List.flatMap_cons, List.append_assoc] at rest ⊢
      rw [getopt_words known.1, rest]

omit [DecidableEq α] in
/-- An option without an argument is one that the program knows. -/
theorem takes_of_mem_group {char : α} {chars : List α}
    (member : Opt.plain char ∈ (group optstring chars).1) : optstring.takes char = some false := by
  induction chars with
  | nil => cases member
  | cons first rest ih =>
      cases takes : optstring.takes first with
      | none =>
          simp only [group, takes, List.mem_cons] at member
          rcases member with other | later
          · cases other
          · exact ih later
      | some argument =>
          cases argument with
          | false =>
              simp only [group, takes, List.mem_cons] at member
              rcases member with same | later
              · cases same
                exact takes
              · exact ih later
          | true =>
              simp only [group, takes] at member
              split at member
              · cases member
              · cases List.mem_singleton.mp member

theorem takes_of_mem_getopt {char : α} {waiting : Option α} {words : List (List α)}
    (member : Opt.plain char ∈ (getopt optstring waiting words).1) :
    optstring.takes char = some false := by
  induction words generalizing waiting with
  | nil =>
      cases waiting with
      | none => cases member
      | some waits => cases List.mem_singleton.mp member
  | cons word rest ih =>
      unfold getopt at member
      split at member
      · rcases List.mem_cons.mp member with other | later
        · cases other
        · exact ih later
      · split at member
        · split at member
          · cases member
          · rcases List.mem_append.mp member with here | later
            · exact takes_of_mem_group here
            · exact ih later
        · exact ih member
      · exact ih member

end Getopt
