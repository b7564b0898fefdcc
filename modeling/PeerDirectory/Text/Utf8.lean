
namespace PeerDirectory.Text

def utf8Chars (chars : List Char) : List UInt8 := chars.flatMap String.utf8EncodeChar

def utf8 (text : String) : List UInt8 := utf8Chars text.toList

def ofUtf8? (bytes : List UInt8) : Option String := String.fromUTF8? ⟨bytes.toArray⟩

end PeerDirectory.Text
