/-!
Octets. A script, the values it works on and what it prints are sequences of
bytes. They are held as texts with one character for each byte, so that a
length, a pattern and a cut all go by bytes.
-/
namespace PluginHost.Shell.Octets

/-- The text with one character for each byte. -/
def ofBytes (bytes : ByteArray) : String :=
  String.ofList (bytes.data.toList.map fun b => Char.ofNat b.toNat)

/-- The bytes such a text stands for. -/
def toBytes (octets : String) : ByteArray :=
  ⟨(octets.toList.map fun c => UInt8.ofNat c.toNat).toArray⟩

/-- The octets of a text in its written form. -/
def ofText (text : String) : String := ofBytes text.toUTF8

/-- The text that some octets are the written form of; others are no text and stand for
themselves. -/
def toText (octets : String) : String :=
  (String.fromUTF8? (toBytes octets)).getD octets

end PluginHost.Shell.Octets
