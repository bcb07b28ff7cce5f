/-! # Text as bytes

    The UTF-8 form of a text, in which places of errors are counted. -/

namespace SpannerDialect.Text

/-- The bytes of a text in UTF-8. -/
def bytes (text : List Char) : List UInt8 :=
  text.flatMap String.utf8EncodeChar

theorem bytes_nil : bytes [] = [] :=
  rfl

theorem bytes_cons (c : Char) (cs : List Char) :
    bytes (c :: cs) = String.utf8EncodeChar c ++ bytes cs :=
  List.flatMap_cons

end SpannerDialect.Text
