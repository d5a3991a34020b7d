/-!
# Entities

Text is written into a page with the characters that carry meaning there replaced by entities.
Reading the entities back gives the text, so that no text leaves its element or attribute.
-/

namespace LectureDeck.Text

/-- The entity of a character inside an element. -/
def contentEntity (c : Char) : List Char :=
  if c = '&' then "&amp;".toList
  else if c = '<' then "&lt;".toList
  else if c = '>' then "&gt;".toList
  else [c]

/-- The entity of a character inside a quoted attribute value. -/
def attributeEntity (c : Char) : List Char :=
  if c = '"' then "&quot;".toList
  else if c = '\x27' then "&#39;".toList
  else contentEntity c

def escape (text : String) : String := String.ofList (text.toList.flatMap contentEntity)

/-- Text as the value of a quoted attribute. -/
def escapeAttribute (text : String) : String :=
  String.ofList (text.toList.flatMap attributeEntity)

end LectureDeck.Text
