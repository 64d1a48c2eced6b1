import PascalLint.Command.Basic

/-! Commands that are put together call by call.

A command starts with the defaults, and calls are made on it in any number and order. Program, source and
arguments are kept by three rules: the program that is set last counts, and settings without one set
none; arguments add up; the source that is given last counts. Each rule is an equation of one call
(`Call.program_apply`, `Call.arguments_apply`, `Call.source_apply`) and by induction one of a run of
calls. Together they say what the words of the command are (`words_of_calls`). -/
namespace PascalLint.Command

/-- A call on a command. -/
inductive Call where
  | settings (s : Settings)
  | program (path : Text)
  | arguments (given : List Text)
  | source (path : Text)

namespace Call

/-- The command after a call. -/
def apply (c : Command) : Call → Command
  | settings s => c.withSettings s
  | program path => c.withProgram path
  | arguments given => c.withArguments given
  | source path => c.withSource path

/-- The program that a call sets. Settings set one if one is configured. -/
def program? : Call → Option Text
  | settings s => s.executable
  | program path => some path
  | _ => none

def source? : Call → Option Text
  | source path => some path
  | _ => none

/-- The arguments that a call adds. -/
def added : Call → List Text
  | settings s => s.options
  | arguments given => given
  | _ => []

/-- Whether arguments can come with a call, settings included. -/
def isAdding : Call → Bool
  | settings _ => true
  | arguments _ => true
  | _ => false

end Call

/-- The command after calls, the first one first. -/
def afterCalls (c : Command) (calls : List Call) : Command := calls.foldl Call.apply c

/-- What is set by the last of some calls that set it. -/
def lastSet (set? : Call → Option Text) (calls : List Call) : Option Text :=
  (calls.filterMap set?).getLast?

/-! ### One call -/

namespace Call
variable (c : Command) (call : Call)

theorem program_apply : (call.apply c).program = call.program?.getD c.program := by
  cases call <;> rfl

theorem arguments_apply : (call.apply c).arguments = c.arguments ++ call.added := by
  cases call with
  | settings => rfl
  | program => exact (List.append_nil c.arguments).symm
  | arguments => rfl
  | source => exact (List.append_nil c.arguments).symm

theorem source_apply : (call.apply c).source = call.source?.or c.source := by
  cases call <;> rfl

theorem added_eq_nil {call : Call} (h : call.isAdding = false) : call.added = [] := by
  cases call with
  | settings => cases h
  | program => rfl
  | arguments => cases h
  | source => rfl

end Call

/-! ### Calls one after the other -/

theorem lastSet_cons (set? : Call → Option Text) (call : Call) (calls : List Call) :
    lastSet set? (call :: calls) = (lastSet set? calls).or (set? call) := by
  unfold lastSet
  cases hset : set? call with
  | none => rw [List.filterMap_cons_none hset, Option.or_none]
  | some path =>
    rw [List.filterMap_cons_some hset, List.getLast?_cons]
    cases (calls.filterMap set?).getLast? <;> rfl

theorem program_afterCalls (c : Command) (calls : List Call) :
    (c.afterCalls calls).program = (lastSet Call.program? calls).getD c.program := by
  induction calls generalizing c with
  | nil => rfl
  | cons call calls ih =>
    show ((call.apply c).afterCalls calls).program = _
    rw [ih, lastSet_cons, call.program_apply]
    cases lastSet Call.program? calls <;> rfl

theorem arguments_afterCalls (c : Command) (calls : List Call) :
    (c.afterCalls calls).arguments = c.arguments ++ calls.flatMap Call.added := by
  induction calls generalizing c with
  | nil => exact (List.append_nil c.arguments).symm
  | cons call calls ih =>
    show ((call.apply c).afterCalls calls).arguments = _
    rw [ih, call.arguments_apply, List.flatMap_cons, List.append_assoc]

theorem source_afterCalls (c : Command) (calls : List Call) :
    (c.afterCalls calls).source = (lastSet Call.source? calls).or c.source := by
  induction calls generalizing c with
  | nil => rfl
  | cons call calls ih =>
    show ((call.apply c).afterCalls calls).source = _
    rw [ih, lastSet_cons, call.source_apply, Option.or_assoc]

/-- Calls that set a program or a source can be left out without a change to what is added. -/
theorem flatMap_added_filter (calls : List Call) :
    (calls.filter Call.isAdding).flatMap Call.added = calls.flatMap Call.added := by
  induction calls with
  | nil => rfl
  | cons call calls ih =>
    rw [List.flatMap_cons, ← ih]
    cases hadding : call.isAdding with
    | true => rw [List.filter_cons_of_pos hadding, List.flatMap_cons]
    | false =>
      rw [List.filter_cons_of_neg (by rw [hadding]; decide), Call.added_eq_nil hadding,
        List.nil_append]

/-- **The words of a command after any calls**: the program that was set last, or the default one; the
default arguments; what the calls add, in their order and with nothing lost; and the source that was
given last, if one was. Calls that set a program or a source may be made at any other time, as often
as one likes: as long as the other calls are the same, in the same order, so are the arguments. -/
theorem words_of_calls (calls : List Call) :
    (default.afterCalls calls).words =
      (lastSet Call.program? calls).getD defaultProgram ::
        (defaultArguments ++ calls.flatMap Call.added) ++ (lastSet Call.source? calls).toList ∧
    ∀ other : List Call, other.filter Call.isAdding = calls.filter Call.isAdding →
      (default.afterCalls other).arguments = (default.afterCalls calls).arguments := by
  refine ⟨?_, fun other hother => ?_⟩
  · rw [words, program_afterCalls, arguments_afterCalls, source_afterCalls]
    show _ ++ ((lastSet Call.source? calls).or none).toList = _
    rw [Option.or_none]
    rfl
  · rw [arguments_afterCalls, arguments_afterCalls, ← flatMap_added_filter other, hother,
      flatMap_added_filter]

/-- A program between settings that have one and settings that have none, and sources before and after:
the arguments are those of the calls made in the usual order. -/
theorem words_of_calls_two_orders :
    let configured : Settings := ⟨some "/opt/epcomp".toList, .list [], ["-a".toList]⟩
    let plain : Settings := ⟨none, .list [], ["-a".toList, "-b".toList]⟩
    let usual : List Call := [.settings configured, .arguments ["-c".toList], .settings plain,
      .source "x.pas".toList]
    let other : List Call := [.source "y.pas".toList, .settings configured,
      .program "epcomp".toList, .arguments ["-c".toList], .settings plain]
    other.filter Call.isAdding = usual.filter Call.isAdding ∧
      (default.afterCalls other).arguments = (default.afterCalls usual).arguments ∧
      (default.afterCalls usual).words = "/opt/epcomp".toList :: (defaultArguments ++
        ["-a".toList, "-c".toList, "-a".toList, "-b".toList]) ++ ["x.pas".toList] ∧
      (default.afterCalls other).words = "epcomp".toList :: (defaultArguments ++
        ["-a".toList, "-c".toList, "-a".toList, "-b".toList]) ++ ["y.pas".toList] := by
  intro configured plain usual other
  have hsame : other.filter Call.isAdding = usual.filter Call.isAdding := rfl
  obtain ⟨husual, hposition⟩ := words_of_calls usual
  exact ⟨hsame, hposition other hsame, husual, (words_of_calls other).1⟩

end PascalLint.Command
