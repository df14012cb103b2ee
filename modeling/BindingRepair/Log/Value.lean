import BindingRepair.Text.Decimal
import BindingRepair.Text.Quoted

namespace BindingRepair.Log

inductive Value
  | null
  | boolean (b : Bool)
  | number (n : Int)
  | text (s : String)
  | list (items : List Value)
  | object (entries : List (String × Value))
  deriving Inhabited

def escapeUnit (unit : Nat) : List Char :=
  '\\' :: 'u' :: Text.hex 4 unit

/-- One character of a text in JSON. A character beyond the first plane is written as two units. -/
def escapeChar (c : Char) : List Char :=
  if c = '"' then ['\\', '"']
  else if c = '\\' then ['\\', '\\']
  else if c = '\n' then ['\\', 'n']
  else if c = '\r' then ['\\', 'r']
  else if c = '\t' then ['\\', 't']
  else if c = '\x08' then ['\\', 'b']
  else if c = '\x0c' then ['\\', 'f']
  else if 0x20 ≤ c.toNat && c.toNat < 0x7f then [c]
  else if c.toNat < 0x10000 then escapeUnit c.toNat
  else
    let beyond := c.toNat - 0x10000
    escapeUnit (0xd800 + beyond / 0x400) ++ escapeUnit (0xdc00 + beyond % 0x400)

def escaped (s : String) : String :=
  "\"" ++ String.ofList (s.toList.flatMap escapeChar) ++ "\""

mutual

def Value.render : Value → String
  | .null => "null"
  | .boolean true => "true"
  | .boolean false => "false"
  | .number n => Text.decimal n
  | .text s => escaped s
  | .list items => "[" ++ ", ".intercalate (renderItems items) ++ "]"
  | .object entries => "\x7b" ++ ", ".intercalate (renderEntries entries) ++ "\x7d"

def renderItems : List Value → List String
  | [] => []
  | item :: rest => item.render :: renderItems rest

def renderEntries : List (String × Value) → List String
  | [] => []
  | (name, value) :: rest => (escaped name ++ ": " ++ value.render) :: renderEntries rest

end

end BindingRepair.Log
