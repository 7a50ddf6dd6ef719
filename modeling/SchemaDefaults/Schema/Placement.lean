import SchemaDefaults.Decode.Basic
import SchemaDefaults.Options
import SchemaDefaults.Schema.Basic

/-! # The messages of a file

The messages for which code is generated, each with the names on the way down to it:
depth first, a message before those nested in it, in declaration order. The types that
stand for the entries of a map are left out together with all that is inside them.

One walk goes through all messages of a file. It carries the names of the messages that it
is inside of, and the messages that it has found so far.
-/

namespace SchemaDefaults.Schema

/-- A message and the names from the outermost message around it down to its own. -/
structure PlacedMessage where
  path : List String
  message : Message

/-- Whether the message stands for the entries of a map. -/
def Message.isMapEntry (message : Message) : Logged Bool := do
  return (← Options.lookup Decode.bool message.options "map_entry").getD false

/-- How far a walk through messages has come. -/
structure Walk where
  /-- The names of the messages entered and not left yet, the innermost first. -/
  names : List String
  /-- The messages found, the latest first. -/
  found : List PlacedMessage

namespace Walk

/-- A walk before its first step. -/
def start : Walk := ⟨[], []⟩

/-- Goes into a message, which is thereby found. -/
def enter (walk : Walk) (message : Message) : Walk :=
  let names := message.name :: walk.names
  ⟨names, ⟨names.reverse, message⟩ :: walk.found⟩

/-- Leaves the message entered last. -/
def leave (walk : Walk) : Walk :=
  { walk with names := walk.names.tail }

end Walk

mutual

/-- Visits a message and those inside it. -/
def Message.visit (walk : Walk) : Message → Logged Walk
  | ⟨name, fields, nested, options⟩ => do
      let message : Message := ⟨name, fields, nested, options⟩
      if ← message.isMapEntry then return walk
      let inside ← Message.visitAll (walk.enter message) nested
      return inside.leave

/-- Visits messages and those inside them, one after the other. -/
def Message.visitAll (walk : Walk) : List Message → Logged Walk
  | [] => pure walk
  | message :: rest => do
      let visited ← message.visit walk
      Message.visitAll visited rest

end

/-- The messages of a file for which code is generated. -/
def File.placedMessages (file : File) : Logged (List PlacedMessage) := do
  let walk ← Message.visitAll .start file.messages
  return walk.found.reverse

def placedIn : List File → Logged (List (List PlacedMessage))
  | [] => pure []
  | file :: rest => do
      let first ← file.placedMessages
      let others ← placedIn rest
      return first :: others

def total : List Nat → Nat
  | [] => 0
  | count :: rest => count + total rest

/-- How many messages of a schema code is generated for. -/
def messageCount (schema : Schema) : Logged Nat := do
  return total ((← placedIn schema.files).map List.length)

end SchemaDefaults.Schema
