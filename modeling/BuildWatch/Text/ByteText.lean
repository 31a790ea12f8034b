import BuildWatch.Text.Utf8

/-! Text that stands for bytes: each of its characters is one byte. Programs that know no encoding work on such
text, and whatever they pass on arrives as it was. -/

namespace BuildWatch.ByteText

def ofBytes (bytes : List UInt8) : String := String.ofList (bytes.map fun byte => Char.ofNat byte.toNat)

def toBytes (text : String) : List UInt8 := text.toList.map fun c => UInt8.ofNat c.toNat

/-- The bytes of an ordinary text. -/
def ofText (text : String) : String := ofBytes (Utf8.encode text)

/-- The ordinary text that the bytes are read as. -/
def toText (text : String) : String := Utf8.decodeLossy (toBytes text)

end BuildWatch.ByteText
