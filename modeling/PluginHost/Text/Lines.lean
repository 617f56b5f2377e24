/-!
Lines of a stream of bytes. A line ends in a line feed, which may have a
carriage return before it; what follows the last line feed is a line too
unless it is empty. The stream is read up to the first line that is not text.
-/
namespace PluginHost.Text

def lineFeed : UInt8 := 10

def carriageReturn : UInt8 := 13

/-- A line without the carriage return it ends in. -/
def dropReturn (line : List UInt8) : List UInt8 :=
  if line.getLast? = some carriageReturn then line.dropLast else line

/-- The lines of some bytes, as bytes. The line under way is backwards. -/
def byteLinesFrom (seen : List UInt8) : List UInt8 → List (List UInt8)
  | [] => if seen.isEmpty then [] else [seen.reverse]
  | b :: rest =>
    if b = lineFeed then dropReturn seen.reverse :: byteLinesFrom [] rest
    else byteLinesFrom (b :: seen) rest

/-- The texts in front of the first line that is not text. -/
def decodeLines : List (List UInt8) → List String
  | [] => []
  | line :: rest =>
    match String.fromUTF8? ⟨line.toArray⟩ with
    | some text => text :: decodeLines rest
    | none => []

def linesOf (bytes : ByteArray) : List String :=
  decodeLines (byteLinesFrom [] bytes.toList)

example : byteLinesFrom [] [97, 13, 10, 10, 98, 13] = [[97], [], [98, 13]] := by decide

end PluginHost.Text
