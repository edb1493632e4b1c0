import Keychord.Text.Quoted

/-!
# Terminal events

What a terminal can report: key events with a code, modifiers and a kind, events of the window, the
focus and the mouse, and pasted text. Each has a text that spells it out in full for the log.
-/

namespace Keychord.Terminal

/-- Keys that control media. -/
inductive MediaKey where
  | play | pause | playPause | reverse | stop | fastForward | rewind | trackNext | trackPrevious
  | record | lowerVolume | raiseVolume | muteVolume
  deriving DecidableEq

/-- Modifier keys that are reported as keys of their own. -/
inductive ModifierKey where
  | leftShift | leftControl | leftAlt | leftSuper | leftHyper | leftMeta
  | rightShift | rightControl | rightAlt | rightSuper | rightHyper | rightMeta
  | isoLevel3Shift | isoLevel5Shift
  deriving DecidableEq

/-- What a key event is about. -/
inductive KeyCode where
  | backspace | enter | left | right | up | down | homeKey | endKey | pageUp | pageDown
  | tab | backTab | delete | insert
  | function (number : UInt8)
  | char (c : Char)
  | null | escape | capsLock | scrollLock | numLock | printScreen | pause | menu | keypadBegin
  | media (key : MediaKey)
  | modifier (key : ModifierKey)
  deriving DecidableEq

/-- What is held down together with the key of an event. -/
structure Modifiers where
  shift : Bool := false
  control : Bool := false
  alt : Bool := false
  super : Bool := false
  hyper : Bool := false
  metaHeld : Bool := false
  deriving DecidableEq

/-- Whether the key goes down, stays down or comes up. -/
inductive KeyKind where
  | press | repeat | release
  deriving DecidableEq

/-- What is known of the keyboard beside the key of an event: whether the key is on the keypad, and
which locks are on. -/
structure KeyState where
  keypad : Bool := false
  capsLock : Bool := false
  numLock : Bool := false
  deriving DecidableEq

/-- A key with its modifiers. -/
structure KeyEvent where
  code : KeyCode
  modifiers : Modifiers := {}
  kind : KeyKind := .press
  state : KeyState := {}
  deriving DecidableEq

/-- The buttons of a mouse. -/
inductive MouseButton where
  | left | right | middle
  deriving DecidableEq

/-- What a mouse does. -/
inductive MouseKind where
  | down (button : MouseButton)
  | up (button : MouseButton)
  | drag (button : MouseButton)
  | moved | scrollDown | scrollUp | scrollLeft | scrollRight
  deriving DecidableEq

/-- What a mouse does at some place, with what is held down on the keyboard. -/
structure MouseEvent where
  kind : MouseKind
  column : Nat
  row : Nat
  modifiers : Modifiers := {}
  deriving DecidableEq

/-- What a terminal reports. -/
inductive Event where
  | key (event : KeyEvent)
  | resize (columns rows : Nat)
  | focusGained
  | focusLost
  | mouse (event : MouseEvent)
  | paste (text : String)
  deriving DecidableEq

def MediaKey.name : MediaKey → String
  | .play => "Play"
  | .pause => "Pause"
  | .playPause => "PlayPause"
  | .reverse => "Reverse"
  | .stop => "Stop"
  | .fastForward => "FastForward"
  | .rewind => "Rewind"
  | .trackNext => "TrackNext"
  | .trackPrevious => "TrackPrevious"
  | .record => "Record"
  | .lowerVolume => "LowerVolume"
  | .raiseVolume => "RaiseVolume"
  | .muteVolume => "MuteVolume"

def ModifierKey.name : ModifierKey → String
  | .leftShift => "LeftShift"
  | .leftControl => "LeftControl"
  | .leftAlt => "LeftAlt"
  | .leftSuper => "LeftSuper"
  | .leftHyper => "LeftHyper"
  | .leftMeta => "LeftMeta"
  | .rightShift => "RightShift"
  | .rightControl => "RightControl"
  | .rightAlt => "RightAlt"
  | .rightSuper => "RightSuper"
  | .rightHyper => "RightHyper"
  | .rightMeta => "RightMeta"
  | .isoLevel3Shift => "IsoLevel3Shift"
  | .isoLevel5Shift => "IsoLevel5Shift"

/-- The full text of a key code. -/
def KeyCode.text : KeyCode → String
  | .backspace => "Backspace"
  | .enter => "Enter"
  | .left => "Left"
  | .right => "Right"
  | .up => "Up"
  | .down => "Down"
  | .homeKey => "Home"
  | .endKey => "End"
  | .pageUp => "PageUp"
  | .pageDown => "PageDown"
  | .tab => "Tab"
  | .backTab => "BackTab"
  | .delete => "Delete"
  | .insert => "Insert"
  | .function number => "F(" ++ toString number.toNat ++ ")"
  | .char c => "Char(" ++ Text.quoteChar c ++ ")"
  | .null => "Null"
  | .escape => "Esc"
  | .capsLock => "CapsLock"
  | .scrollLock => "ScrollLock"
  | .numLock => "NumLock"
  | .printScreen => "PrintScreen"
  | .pause => "Pause"
  | .menu => "Menu"
  | .keypadBegin => "KeypadBegin"
  | .media key => "Media(" ++ key.name ++ ")"
  | .modifier key => "Modifier(" ++ key.name ++ ")"

/-- The names of the flags that are set, in their order. -/
def flagsText (flags : List (Bool × String)) : String :=
  match flags.filterMap fun (set, name) => if set then some name else none with
  | [] => "0x0"
  | names => " | ".intercalate names

/-- The full text of a set of modifiers. -/
def Modifiers.text (m : Modifiers) : String :=
  "KeyModifiers(" ++ flagsText [(m.shift, "SHIFT"), (m.control, "CONTROL"), (m.alt, "ALT"),
    (m.super, "SUPER"), (m.hyper, "HYPER"), (m.metaHeld, "META")] ++ ")"

def KeyState.text (s : KeyState) : String :=
  "KeyEventState(" ++ flagsText [(s.keypad, "KEYPAD"), (s.capsLock, "CAPS_LOCK"),
    (s.numLock, "NUM_LOCK")] ++ ")"

def KeyKind.text : KeyKind → String
  | .press => "Press"
  | .repeat => "Repeat"
  | .release => "Release"

def MouseButton.name : MouseButton → String
  | .left => "Left"
  | .right => "Right"
  | .middle => "Middle"

def MouseKind.text : MouseKind → String
  | .down button => "Down(" ++ button.name ++ ")"
  | .up button => "Up(" ++ button.name ++ ")"
  | .drag button => "Drag(" ++ button.name ++ ")"
  | .moved => "Moved"
  | .scrollDown => "ScrollDown"
  | .scrollUp => "ScrollUp"
  | .scrollLeft => "ScrollLeft"
  | .scrollRight => "ScrollRight"

/-- The full text of an event. -/
def Event.text : Event → String
  | .key e => "Key(KeyEvent \x7b code: " ++ e.code.text ++ ", modifiers: " ++ e.modifiers.text ++
      ", kind: " ++ e.kind.text ++ ", state: " ++ e.state.text ++ " \x7d)"
  | .resize columns rows => "Resize(" ++ toString columns ++ ", " ++ toString rows ++ ")"
  | .focusGained => "FocusGained"
  | .focusLost => "FocusLost"
  | .mouse e => "Mouse(MouseEvent \x7b kind: " ++ e.kind.text ++ ", column: " ++
      toString e.column ++ ", row: " ++ toString e.row ++ ", modifiers: " ++ e.modifiers.text ++
      " \x7d)"
  | .paste text => "Paste(" ++ Text.quote text ++ ")"

end Keychord.Terminal
