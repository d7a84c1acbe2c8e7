import HdlLint.Text.Quoted

/-!
# Options

Arguments are options and operands. An option begins with a hyphen; some options take a
value, which is the rest of the argument or the next one. Two hyphens alone end the
options. `readArguments` gives the options in the order in which they were used, and the
operands.
-/

namespace HdlLint.CommandLine

/-- One way to write an option: what it means, and the value it sets unless it takes
one. -/
structure OptionForm (κ : Type) where
  spelling : String
  key : κ
  switch : Option Bool
  deriving Repr

/-- The value of an option that was used. -/
inductive OptionValue where
  | text (s : String)
  | switch (b : Bool)
  deriving Repr, DecidableEq

/-- Why arguments cannot be read. -/
inductive OptionFault where
  /-- There is no such option; some others are alike. -/
  | unknown (spelling : String) (alike : List String)
  | needsValue (spelling : String)
  | takesNoValue (spelling : String)
  deriving Repr, DecidableEq

/-- Arguments that have been read. -/
structure Arguments (κ : Type) where
  uses : List (κ × OptionValue) := []
  operands : List String := []
  deriving Repr

namespace OptionForm

variable {κ : Type}

/-- Whether an option is written with one hyphen and one character. -/
def isShort (f : OptionForm κ) : Bool :=
  match f.spelling.toList with
  | ['-', _] => true
  | _ => false

def find? (forms : List (OptionForm κ)) (spelling : String) : Option (OptionForm κ) :=
  forms.find? fun f => f.spelling = spelling

end OptionForm

/-- What reading one argument gives: the options used in it, and whether the next argument
was taken as a value. -/
abbrev ArgumentStep (κ : Type) := List (κ × OptionValue) × Bool

variable {κ : Type}

/-- The use of an option, with the value that was attached to it or else with the next
argument. -/
def useForm (f : OptionForm κ) (attached next : Option String) :
    Except OptionFault (ArgumentStep κ) :=
  match f.switch with
  | some b =>
    match attached with
    | some _ => .error (.takesNoValue f.spelling)
    | none => .ok ([(f.key, .switch b)], false)
  | none =>
    match attached, next with
    | some s, _ => .ok ([(f.key, .text s)], false)
    | none, some s => .ok ([(f.key, .text s)], true)
    | none, none => .error (.needsValue f.spelling)

/-- The options in an argument of single letters behind one hyphen. The first one that
takes a value takes all the letters behind it, or the next argument if there are none. -/
def useLetters (forms : List (OptionForm κ)) (next : Option String) :
    List Char → Except OptionFault (ArgumentStep κ)
  | [] => .ok ([], false)
  | c :: r => do
    let spelling := String.ofList ['-', c]
    match OptionForm.find? (forms.filter OptionForm.isShort) spelling with
    | none => throw (.unknown spelling [])
    | some f =>
      match f.switch with
      | some b =>
        let (uses, taken) ← useLetters forms next r
        pure ((f.key, .switch b) :: uses, taken)
      | none => useForm f (if r.isEmpty then none else some (String.ofList r)) next

/-- The part of an argument before its first equals sign, and the part behind it if there
is one. -/
def splitValue (arg : String) : String × Option String :=
  let s := arg.toList
  (String.ofList (s.takeWhile (· ≠ '=')),
    match s.dropWhile (· ≠ '=') with
    | _ :: value => some (String.ofList value)
    | [] => none)

def useArgument (alike : String → List String → List String)
    (forms : List (OptionForm κ)) (arg : String) (next : Option String) :
    Except OptionFault (ArgumentStep κ) :=
  let (spelling, attached) := splitValue arg
  let long := forms.filter fun f => !f.isShort
  match OptionForm.find? long spelling with
  | some f => useForm f attached next
  | none =>
    match arg.toList with
    | '-' :: '-' :: _ =>
        .error (.unknown spelling (alike spelling (long.map OptionForm.spelling)))
    | _ => useLetters forms next arg.toList.tail

/-- Whether an argument is an option: a hyphen and something behind it. -/
def isOption (arg : String) : Bool :=
  match arg.toList with
  | '-' :: _ :: _ => true
  | _ => false

/-- Reads arguments. If operands may not stand among options, the first operand ends the
options. -/
def readArguments (alike : String → List String → List String)
    (forms : List (OptionForm κ)) (interspersed : Bool) :
    List String → Except OptionFault (Arguments κ)
  | [] => .ok {}
  | arg :: rest =>
    if arg = "--" then .ok ⟨[], rest⟩
    else if isOption arg then
      match useArgument alike forms arg rest.head? with
      | .error e => .error e
      | .ok (uses, taken) => do
        let more ← readArguments alike forms interspersed
          (if taken then rest.tail else rest)
        pure ⟨uses ++ more.uses, more.operands⟩
    else if interspersed then do
      let more ← readArguments alike forms interspersed rest
      pure ⟨more.uses, arg :: more.operands⟩
    else .ok ⟨[], arg :: rest⟩
termination_by args => args.length
decreasing_by
  · split <;> simp only [List.length_tail, List.length_cons] <;> omega
  · simp

namespace Arguments

variable [DecidableEq κ]

def has (a : Arguments κ) (key : κ) : Bool :=
  a.uses.any fun u => u.1 = key

/-- The value an option was given last. -/
def value? (a : Arguments κ) (key : κ) : Option OptionValue :=
  a.uses.reverse.lookup key

/-- The text an option was given last. -/
def text? (a : Arguments κ) (key : κ) : Option String :=
  match a.value? key with
  | some (.text s) => some s
  | _ => none

def switch? (a : Arguments κ) (key : κ) : Option Bool :=
  match a.value? key with
  | some (.switch b) => some b
  | _ => none

/-- The options used, in the order of their first use. -/
def keys (a : Arguments κ) : List κ :=
  (a.uses.map Prod.fst).eraseDups

end Arguments

/-- What a fault says, with suggestions if there are names alike. -/
def suggesting (message : String) (alike : List String) : String :=
  match alike.mergeSort (· ≤ ·) with
  | [] => message
  | [s] => message ++ " Did you mean " ++ Text.quoted s ++ "?"
  | names => message ++ " (Did you mean one of: " ++
    ", ".intercalate (names.map Text.quoted) ++ "?)"

def OptionFault.message : OptionFault → String
  | unknown s alike => suggesting ("No such option " ++ Text.quoted s ++ ".") alike
  | needsValue s => "Option " ++ Text.quoted s ++ " requires an argument."
  | takesNoValue s => "Option " ++ Text.quoted s ++ " does not take a value."

/-- Whether a report of a fault recalls how the command is used. -/
def OptionFault.recallsUsage : OptionFault → Bool
  | unknown .. => true
  | _ => false

end HdlLint.CommandLine
