import PointerHelpers.CommandLine.Request

namespace PointerHelpers.CommandLine

namespace Flag

def letter : Flag → Char
  | .help => 'h'
  | .version => 'V'

/-- The argument is the flag, or a cluster of short options that begins with it. -/
def IsAskedBy (flag : Flag) (argument : String) : Prop :=
  argument = flag.option ∨ ['-', flag.letter] <+: argument.toList

def IsAskedFirst (flag : Flag) (arguments : List String) : Prop :=
  ∃ argument ∈ arguments.head?, flag.IsAskedBy argument

theorem toList_option (flag : Flag) : flag.option.toList = '-' :: '-' :: flag.name.toList := by
  cases flag <;> rfl

end Flag

namespace Request

theorem ofLong_eq_answer_iff (option : List Char) (flag : Flag) :
    ofLong option = .answer flag ↔ option = flag.name.toList := by
  constructor
  · intro h
    rw [ofLong] at h
    split at h
    · rename_i known hk hd
      cases h
      have hn : flag.name.toList = option.takeWhile (· != '=') := by
        simpa using List.find?_some hk
      have hw := List.takeWhile_append_dropWhile (p := (· != '=')) (l := option)
      rw [hn]
      rwa [hd, List.append_nil, eq_comm] at hw
    · cases h
    · cases h
  · rintro rfl
    cases flag <;> decide

theorem ofArgument_eq_answer_iff (argument : String) (flag : Flag) :
    ofArgument argument = .answer flag ↔ flag.IsAskedBy argument := by
  constructor
  · intro h
    rw [ofArgument] at h
    rw [Flag.IsAskedBy]
    split at h
    · rename_i option hl
      left
      rw [← String.toList_inj, hl, flag.toList_option, (ofLong_eq_answer_iff option flag).mp h]
    · rename_i rest hl
      cases h
      exact .inr ⟨rest, hl.symm⟩
    · rename_i rest hl
      cases h
      exact .inr ⟨rest, hl.symm⟩
    · cases h
    · cases h
  · rintro (rfl | ⟨rest, hl⟩)
    · cases flag <;> decide
    · rw [ofArgument, ← hl]
      cases flag <;> rfl

theorem ofLong_ne_generate (option : List Char) : ofLong option ≠ .generate := by
  fun_cases ofLong option <;> simp

theorem ofArgument_ne_generate (argument : String) : ofArgument argument ≠ .generate := by
  rw [ofArgument]
  split
  · exact ofLong_ne_generate _
  all_goals simp

theorem ofArguments_eq_generate_iff (arguments : List String) :
    ofArguments arguments = .generate ↔ arguments = [] ∨ arguments = ["--"] := by
  fun_cases ofArguments arguments with
  | case1 | case2 | case3 => simp
  | case4 argument rest hlone hmore =>
    refine iff_of_false (ofArgument_ne_generate argument) ?_
    rintro (h | h)
    · cases h
    · cases h
      exact hlone rfl rfl

theorem ofArguments_eq_answer_iff (arguments : List String) (flag : Flag) :
    ofArguments arguments = .answer flag ↔ flag.IsAskedFirst arguments := by
  have hseparator : ¬ flag.IsAskedBy "--" := by
    rw [← ofArgument_eq_answer_iff]
    cases flag <;> decide
  fun_cases ofArguments arguments with
  | case1 => simp [Flag.IsAskedFirst]
  | case2 | case3 => simpa [Flag.IsAskedFirst] using hseparator
  | case4 argument rest => simp [Flag.IsAskedFirst, ofArgument_eq_answer_iff]

end Request

end PointerHelpers.CommandLine
