/-!
# RON values

What a RON document says, before it is read as a particular type. Numbers keep
their written form, because its meaning depends on the type that is asked for.
-/

namespace Colloquy.Ron

inductive Value where
  | unit
  | bool (value : Bool)
  | number (lexeme : String)
  | character (value : Char)
  /-- A byte or byte string literal, whose content nobody asks for. -/
  | bytes
  | text (value : String)
  | absent
  | present (value : Value)
  | name (word : String)
  | tuple (name : Option String) (items : List Value)
  | fields (name : Option String) (entries : List (String × Value))
  | list (items : List Value)
  | map (entries : List (Value × Value))
  deriving Inhabited

end Colloquy.Ron
