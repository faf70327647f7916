import Chip8.Device.Keyboard

/-!
# Written key events

Key events can be written down: a character stands for its key, and the other
keys and happenings are named between angle brackets.  A name that is not
known is a text like any other, of which the first character counts.
-/

namespace Chip8

namespace Arrival

/-- The names of the keys and happenings that press no key. -/
def silentNames : List String :=
  ["<Enter>", "<Tab>", "<BackTab>", "<Backspace>", "<Left>", "<Right>",
    "<Up>", "<Down>", "<Home>", "<End>", "<PageUp>", "<PageDown>",
    "<Delete>", "<Insert>", "<F1>", "<Null>", "<mouse>", "<resize>"]

/-- The character of a written key, with the name of a modifier or without. -/
def character? : List Char → Option Char
  | ['<', 'c', 't', 'r', 'l', '-', char, '>'] => some char
  | ['<', 'a', 'l', 't', '-', char, '>'] => some char
  | ['<', 's', 'h', 'i', 'f', 't', '-', char, '>'] => some char
  | char :: _ => some char
  | [] => none

/-- What a written event is; an empty text is none. -/
def ofText? (text : String) : Option Arrival :=
  if text = "<Esc>" then some (.event .escape)
  else if text ∈ silentNames then some (.event .other)
  else if text = "<poll-error>" then some (.failed (.device "poll failed"))
  else if text = "<read-error>" then some (.failed (.device "read failed"))
  else (character? text.toList).map fun char => .event (.character char)

end Arrival

end Chip8
