/-! # Half pairs

Some formats write a character as a pair of codes. Half of a pair is no character and cannot be
encoded, but may turn up in a text that was read.
-/

namespace IndexAdvisor.Text

/-- What half of a pair of codes is read as: a character that Unicode keeps out of all text. -/
def halfPair : Char := Char.ofNat 0xfdd0

/-- Whether a text can be encoded. -/
def isEncodable (s : String) : Bool := !s.toList.contains halfPair

end IndexAdvisor.Text
