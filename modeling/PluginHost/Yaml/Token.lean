import PluginHost.Yaml.Scalar

/-!
The tokens of a YAML text, and readers for those with names in them: anchors,
aliases, tags and directives.
-/
namespace PluginHost.Yaml

/-- The tokens of a YAML text. Block collections are opened and closed by the layout. -/
inductive Token where
  | documentStart
  | documentEnd
  /-- The version of the language a document is written in. -/
  | version (major minor : Nat)
  /-- A handle for tags and what it stands for. -/
  | handle (name expansion : String)
  | openBlockSequence
  | openBlockMapping
  | closeBlock
  | openSequence
  | closeSequence
  | openMapping
  | closeMapping
  /-- The dash in front of an item. -/
  | item
  | comma
  | key
  | value
  | anchor (name : String)
  | alias (name : String)
  | tag (handle suffix : String)
  | scalar (style : Style) (text : String)
  deriving DecidableEq, Repr

/-! ### Anchors -/

/-- The name of an anchor or alias, and the place behind it. -/
def anchorName? (c : Cursor) : Option (String × Cursor) :=
  let (name, c) := (c.skip 1).span isNameChar
  let endsHere := endsWord c.rest || "?:,]\x7d%@\x60".toList.contains (c.head?.getD ' ')
  if name.isEmpty || !endsHere then none else some (String.ofList name, c)

/-! ### Tags -/

/-- Characters of tags. Lists of tags may not need to end at commas and brackets. -/
def isTagChar (wide : Bool) (c : Char) : Bool :=
  isNameChar c || ";/?:@&=+$.!~*\x27()".toList.contains c || (wide && ",[]".toList.contains c)

/-- The number of bytes a character takes by its first byte. -/
def charWidth? (lead : Nat) : Option Nat :=
  if lead < 0x80 then some 1
  else if lead < 0xc0 then none
  else if lead < 0xe0 then some 2
  else if lead < 0xf0 then some 3
  else if lead < 0xf8 then some 4
  else none

/-- Some bytes written as escapes, and the rest. -/
def escapedBytes? : Nat → List Char → Option (List Nat × List Char)
  | 0, rest => some ([], rest)
  | n + 1, '%' :: a :: b :: rest => do
    let byte ← hex? [a, b]
    let (bytes, rest) ← escapedBytes? n rest
    return (byte :: bytes, rest)
  | _, _ => none

/-- The character written as escapes of its bytes, and the rest. Only the leading bits of the bytes
are looked at; a character that does not exist becomes a replacement. -/
def escapedChar? (cs : List Char) : Option (String × List Char) := do
  let (lead, _) ← escapedBytes? 1 cs
  let width ← charWidth? (lead.headD 0)
  let (bytes, rest) ← escapedBytes? width cs
  if bytes.tail.any fun b => b < 0x80 || 0xc0 ≤ b then none
  let text := String.fromUTF8? ⟨(bytes.map UInt8.ofNat).toArray⟩
  return (text.getD "\ufffd", rest)

/-- The characters of a tag; escapes stand for bytes of characters. Each round reads a run of
characters or an escaped one. -/
def tagText? (wide : Bool) : (rounds : Nat) → String → Cursor → Option (String × Cursor)
  | 0, _, _ => none
  | n + 1, seen, c =>
    if c.head? == some '%' then do
      let (text, rest) ← escapedChar? c.rest
      tagText? wide n (seen ++ text) (c.skip (c.rest.length - rest.length))
    else
      match c.span (isTagChar wide) with
      | ([], _) => some (seen, c)
      | (run, c) => tagText? wide n (seen ++ String.ofList run) c

/-- The characters of a tag behind some that were read as a handle; there is at least one. A tag
ends before the character with the number zero. -/
def tagRest? (wide : Bool) (seen : String) (c : Cursor) : Option (String × Cursor) := do
  let (text, after) ← tagText? wide (c.rest.length + 1) "" c
  if seen.isEmpty && text.isEmpty then none
  return (String.ofList ((seen.toList.drop 1 ++ text.toList).takeWhile (· != '\x00')), after)

/-- A handle: an exclamation mark, and a name with another mark behind it. -/
def handle? (c : Cursor) : Option (String × Cursor) :=
  if c.head? != some '!' then none
  else
    let (name, after) := (c.skip 1).span isNameChar
    if after.head? == some '!' then some ("!" ++ String.ofList name ++ "!", after.skip 1)
    else some ("!" ++ String.ofList name, after)

/-- Whether a handle has a mark at both ends. -/
def isFullHandle (handle : String) : Bool :=
  1 < handle.length && handle.toList.getLast? == some '!'

/-- The tag here: verbatim in angle brackets, or a handle and a suffix. -/
def tag? (inFlow : Bool) (c : Cursor) : Option (Token × Cursor) := do
  let (token, c) ←
    if (c.rest.drop 1).head? == some '<' then do
      let (text, c) ← tagRest? true "" (c.skip 2)
      if c.head? == some '>' then pure (.tag "" text, c.skip 1) else none
    else do
      let (handle, c) ← handle? c
      if isFullHandle handle then
        let (suffix, c) ← tagRest? false "" c
        pure (.tag handle suffix, c)
      else
        let (suffix, c) ← tagRest? false handle c
        pure (if suffix.isEmpty then .tag "" "!" else .tag "!" suffix, c)
  if endsWord c.rest || (inFlow && c.head? == some ',') then return (token, c) else none

/-! ### Directives -/

/-- A number of at most nine digits. -/
def shortNumber? (c : Cursor) : Option (Nat × Cursor) :=
  let (digits, c) := c.span Char.isDigit
  if digits.length ≤ 9 then (Text.digits? digits).map (·, c) else none

/-- The directive here, and the next line. -/
def directive? (c : Cursor) : Option (Token × Cursor) := do
  let (name, c) := (c.skip 1).span isNameChar
  if !endsWord c.rest then none
  let c := c.skipWhile isBlank
  let (token, c) ←
    if name = "YAML".toList then do
      let (major, c) ← shortNumber? c
      if c.head? != some '.' then none
      let (minor, c) ← shortNumber? (c.skip 1)
      pure (.version major minor, c)
    else if name = "TAG".toList then do
      let (handle, c) ← handle? c
      if handle != "!" && !isFullHandle handle then none
      if !(c.head?.map isBlank).getD false then none
      let (expansion, c) ← tagRest? true "" (c.skipWhile isBlank)
      if !endsWord c.rest then none
      pure (.handle handle expansion, c)
    else none
  return (token, ← c.endOfLine?)

end PluginHost.Yaml
