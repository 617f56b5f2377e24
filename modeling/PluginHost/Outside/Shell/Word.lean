/-!
Words of a script: characters as they are, and what is put in their place when
the word is used: the value of a parameter, a sum, or the output of commands.
Each part is quoted or not, which tells whether it is cut at blanks and whether
its characters are patterns.
-/
namespace PluginHost.Shell

/-- What becomes of the value of a parameter. Where `orEmpty`, an empty value counts as none. -/
inductive Change where
  | none
  /-- Its length. -/
  | length
  /-- The word if there is no value. -/
  | otherwise (orEmpty : Bool)
  /-- The word if there is no value, which is kept as the value. -/
  | assign (orEmpty : Bool)
  /-- The script ends if there is no value. -/
  | require (orEmpty : Bool)
  /-- The word if there is a value. -/
  | instead (orEmpty : Bool)
  /-- The value without a start that fits the word. -/
  | cutFront (longest : Bool)
  /-- The value without an end that fits the word. -/
  | cutBack (longest : Bool)
  /-- A change that is none: the script ends. -/
  | unknown
  deriving DecidableEq, Repr

inductive Part where
  | text (value : String) (quoted : Bool)
  | parameter (name : String) (change : Change) (word : List Part) (quoted : Bool)
  /-- A sum to work out. -/
  | sum (expression : List Part) (quoted : Bool)
  /-- The output of a script. -/
  | output (script : String) (quoted : Bool)
  deriving Inhabited, Repr

def Part.isQuoted : Part → Bool
  | .text _ q | .parameter _ _ _ q | .sum _ q | .output _ q => q

mutual

/-- The scripts in a part that are run for their output. -/
def Part.outputs : Part → List String
  | .text _ _ => []
  | .parameter _ _ word _ => Part.outputsOfAll word
  | .sum expression _ => Part.outputsOfAll expression
  | .output script _ => [script]

/-- The scripts in some parts that are run for their output. -/
def Part.outputsOfAll : List Part → List String
  | [] => []
  | part :: rest => part.outputs ++ Part.outputsOfAll rest

end

abbrev Word := List Part

/-- The text of a word without quotes and without parts that stand for others. -/
def Word.bare? : Word → Option String
  | [.text s false] => some s
  | _ => none

/-- The text of a word that holds text alone, which may be quoted. -/
def Word.text? : Word → Option String
  | [] => some ""
  | .text s _ :: rest => (Word.text? rest).map (s ++ ·)
  | _ :: _ => none

def isNameStart (c : Char) : Bool :=
  c.isAlpha || c == '_'

def isNameChar (c : Char) : Bool :=
  c.isAlphanum || c == '_'

/-- Whether a text can name a variable. -/
def isName (text : String) : Bool :=
  match text.toList with
  | c :: rest => isNameStart c && rest.all isNameChar
  | [] => false

/-- The variables of a running script. -/
abbrev Variables := List (String × String)

def Variables.set (vs : Variables) (name value : String) : Variables :=
  (name, value) :: vs.filter (·.1 != name)

/-- Take a variable away. -/
def Variables.unset (vs : Variables) (name : String) : Variables :=
  vs.filter (·.1 != name)

end PluginHost.Shell
