/-!
The texts that may follow a version's numbers: what stands after `-` names a
pre-release, what stands after `+` a build. Both are dot-separated fields of
letters, digits and hyphens, or nothing at all. The module says which texts
are allowed and in which order they come.
-/
namespace PluginHost.Version.Extra

/-- The dot-separated fields of a text. -/
def fields (text : String) : List (List Char) :=
  text.toList.splitOn '.'

/-- ASCII letters, digits and the hyphen. -/
def isFieldChar (c : Char) : Bool :=
  c.isAlphanum || c == '-'

/-- A field that holds digits only is a number. -/
def isNumeric (field : List Char) : Bool :=
  field.all Char.isDigit

/-- A field is not empty and holds field characters only. -/
def isField (field : List Char) : Bool :=
  !field.isEmpty && field.all isFieldChar

/-- A number of more than one digit that starts with zero. -/
def hasLeadingZero (field : List Char) : Bool :=
  isNumeric field && field.length != 1 && field.head? == some '0'

/-- Builds may be any fields. -/
def isBuild (text : String) : Bool :=
  text == "" || (fields text).all isField

/-- The numbers in a pre-release have no leading zeros. -/
def isPre (text : String) : Bool :=
  text == "" || (fields text).all fun f => isField f && !hasLeadingZero f

/-! ### Order -/

/-- Numbers come before other fields. -/
def kind (field : List Char) : Nat :=
  if isNumeric field then 0 else 1

/-- How many digits a number has; fields that are not numbers are not told apart by length. -/
def width (field : List Char) : Nat :=
  if isNumeric field then field.length else 0

/-- A number without its leading zeros; other fields as they are. -/
def significant (field : List Char) : List Char :=
  if isNumeric field then field.dropWhile (· == '0') else field

/-- Fields of a pre-release: numbers by value, then other fields by their characters. -/
def compareField : List Char → List Char → Ordering :=
  compareLex (compareOn kind) (compareLex (compareOn width) (compareOn id))

/-- Fields of a build: numbers by value and then by how many zeros lead them, then other fields by
their characters. -/
def compareBuildField : List Char → List Char → Ordering :=
  compareLex (compareOn kind) (compareLex (compareOn fun f => width (significant f))
    (compareLex (compareOn significant) (compareOn width)))

/-- The empty pre-release comes after every other one. -/
def rank (text : String) : Nat :=
  if text = "" then 1 else 0

/-- Pre-releases compare field by field; one comes before its extensions. -/
def comparePre : String → String → Ordering :=
  compareLex (compareOn rank) fun a b => List.compareLex compareField (fields a) (fields b)

/-- Builds compare field by field; one comes before its extensions. -/
def compareBuild (a b : String) : Ordering :=
  List.compareLex compareBuildField (fields a) (fields b)

example : comparePre "alpha.9" "alpha.10" = .lt := by decide +kernel
example : comparePre "alpha.1" "alpha.beta" = .lt := by decide +kernel
example : comparePre "" "rc" = .gt := by decide +kernel
example : compareBuild "1" "01" = .lt := by decide +kernel
example : compareBuild "" "0" = .lt := by decide +kernel

end PluginHost.Version.Extra
