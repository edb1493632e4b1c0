import Keychord.Key
import Keychord.Terminal.Event

/-!
# What a terminal event means

A key code stands for a raw key. Keys held with Control or Alt are not read as chords: C-c closes
the input, C-g interrupts, the rest is ignored, and so is every event that no key goes down in.
Without Control and Alt, ESC closes the input and every other key is read.
-/

namespace Keychord.Terminal

/-- The raw key of a key code. -/
def KeyCode.key : KeyCode → Key
  | .char c => .char c
  | .backspace => .backspace
  | .enter => .named "return"
  | .tab => .named "tab"
  | .backTab => .named "backtab"
  | .escape => .named "escape"
  | .delete => .named "delete"
  | .insert => .named "insert"
  | .up => .named "up"
  | .down => .named "down"
  | .left => .named "left"
  | .right => .named "right"
  | .homeKey => .named "home"
  | .endKey => .named "end"
  | .pageUp => .named "prior"
  | .pageDown => .named "next"
  | .function number => .named ("f" ++ toString number.toNat)
  | .null => .named "null"
  | .capsLock => .named "capslock"
  | .scrollLock => .named "scrolllock"
  | .numLock => .named "numlock"
  | .printScreen => .named "printscreen"
  | .pause => .named "pause"
  | .menu => .named "menu"
  | .keypadBegin => .named "keypadbegin"
  | .media key => .named ("media(" ++ key.name.toLower ++ ")")
  | .modifier key => .named ("modifier(" ++ key.name.toLower ++ ")")

/-- What is done with an event. -/
inductive Verdict where
  | key (key : Key)
  | interrupt (key : String)
  | close
  | ignore
  deriving DecidableEq

/-- What is done with a key event. -/
def KeyEvent.verdict (e : KeyEvent) : Verdict :=
  if e.kind = .release then .ignore
  else if e.modifiers.control then
    match e.code with
    | .char 'c' => .close
    | .char 'g' => .interrupt "C-g"
    | _ => .ignore
  else if e.modifiers.alt then .ignore
  else if e.code = .escape then .close
  else .key e.code.key

/-- What is done with any event. -/
def Event.verdict : Event → Verdict
  | .key e => e.verdict
  | _ => .ignore

end Keychord.Terminal
