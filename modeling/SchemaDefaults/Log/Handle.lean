import SchemaDefaults.Log.Level

/-! # Changing the level of a running log

A handle changes the filter of the subscriber that it was last attached to, for as long
as that subscriber lives, and knows the level that it set last.
-/

namespace SchemaDefaults.Log

/-- The subscriber that a handle is attached to. -/
inductive Subscriber where
  /-- None was ever attached. -/
  | never
  /-- It lives, with a filter in force. -/
  | live (filter : Level)
  /-- It is gone. -/
  | gone
  deriving Repr, DecidableEq

/-- A handle on the level of a log. -/
structure Handle where
  subscriber : Subscriber
  level : Option Level
  deriving Repr, DecidableEq

/-- Why a level is not applied. -/
inductive ReloadError where
  | notInitialized
  | subscriberGone
  deriving Repr, DecidableEq

def ReloadError.message : ReloadError → String
  | .notInitialized => "Reload handle not initialized"
  | .subscriberGone => "Failed to reload filter: subscriber no longer exists"

namespace Handle

/-- A handle that is not attached to anything. -/
def detached : Handle := ⟨.never, none⟩

/-- Whether a subscriber was ever attached. -/
def isInitialized (handle : Handle) : Bool :=
  handle.subscriber != .never

/-- The filter in force. Without a subscriber nothing passes. -/
def filter (handle : Handle) : Level :=
  match handle.subscriber with
  | .live filter => filter
  | _ => .off

/-- Attaches the handle to a fresh subscriber with a given level. -/
def attach (_ : Handle) (level : Level) : Handle :=
  ⟨.live level, some level⟩

/-- The end of the subscriber, if there is one. -/
def drop (handle : Handle) : Handle :=
  match handle.subscriber with
  | .never => handle
  | _ => { handle with subscriber := .gone }

/-- Sets the level of the subscriber. A handle that cannot do so stays as it is. -/
def reload (handle : Handle) (level : Level) : Except ReloadError Unit × Handle :=
  match handle.subscriber with
  | .never => (.error .notInitialized, handle)
  | .gone => (.error .subscriberGone, handle)
  | .live _ => (.ok (), ⟨.live level, some level⟩)

/-- Installs the log of a process, once: a second call only sets the level. Says whether the
    log was installed by this call. -/
def install (handle : Handle) (level : Level) : Bool × Handle :=
  -- Nothing else installs a log, so there is one as soon as the handle was attached.
  if handle.isInitialized then (false, (handle.reload level).2) else (true, handle.attach level)

end Handle

end SchemaDefaults.Log
