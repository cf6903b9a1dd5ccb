import HttpTap.Exchange.Loading
import HttpTap.Exchange.Send
import HttpTap.Settings.Load

/-!
# Scenarios

A scenario is a list of commands on named objects: make a stream, make an entity over it, let a
recorder see it, look at what is left.  Commands make objects under names, use objects by their
names, and give an answer each.  Making an object under a name that is in use rebinds the name.

This module holds the commands, the answers and the record of one step.  `Scenario.Play` carries
the commands out.
-/

namespace HttpTap
namespace Scenario

/-- A stream that has a name already, or one to be made. -/
inductive StreamChoice where
  | named (name : String)
  | planned (plan : StreamPlan)

/-- What an entity will be.  Some of its members may be given by name. -/
inductive EntityPlan where
  | bytes (data : Bytes) (given : Named)
  | text (data : String) (given : Named)
  | stream (stream : StreamChoice) (given : Named)
  | scripted (repeatable length type encoding : Readings)
      (contents : List (Except Fault StreamPlan))

/-- What the body of a request will be. -/
inductive BodyPlan where
  | given (body : Body)
  | file (plan : StreamPlan)
  | iterator (items : List Item)

/-- What a message will be; entities, requests and responses by name. -/
inductive MessagePlan where
  | plain (entity : Option String) (status : Option Item)
  | readOnly (entity : Option String) (status : Option Item)
  | broken (fault : Fault) (status : Option Item)
  | bare (status : Option Item)
  | request (of_ : Option String)
  | response (of_ : Option String)

/-- What a handler does. -/
inductive HandlerPlan where
  | done
  | fails (f : Fault)
  /-- Read the content of the message so many times. -/
  | reads (count : Nat)

/-- How the bare function for sending ends. -/
inductive SendPlan where
  | fails (f : Fault)
  | response (name : Option String)

/-- A command. -/
inductive Command where
  | stream (id : String) (plan : StreamPlan)
  | openContent (entity as_ : String)
  | read (stream : String) (size : Int)
  | readInto (stream : String) (size : Nat)
  | close (stream : String)
  | readable (stream : String)
  | closed (stream : String)
  | readBounded (stream : String) (limit chunk : Int)
  | entity (id : String) (plan : EntityPlan)
  | capture (entity : Option String) (settings : Named) (chunk : Int) (as_ : String)
  | makeRepeatable (entity : String) (chunk : Int) (as_ : String)
  | recorder (id : String) (settings : Named)
  | beforeSend (recorder : String) (entity : Option String) (as_ : String)
  | afterReceive (recorder : String) (entity : Option String) (as_ : String)
  | sink (id : String) (failAfter : Option Nat)
  | message (id : String) (plan : MessagePlan)
  | onStart (recorder sink : String) (message : Option String)
  | onEnd (recorder sink : String) (message : Option String)
  | makeResponseRepeatable (recorder : String) (message : Option String)
  | entityOf (message as_ : String)
  | setEntity (message : String) (entity : Option String)
  | showObject (id : String)
  | handle (recorder : String) (message parent : Option String) (handler : HandlerPlan)
      (failing : List SpanMethod)
  | request (id : String) (method url : Option String) (headers : Option Headers)
      (body : BodyPlan)
  | response (id : String) (status : Value) (headers : Option Headers) (content : Content)
      (consumed : Bool) (raw : Option StreamPlan)
  | content (response : String)
  | contentPieces (response : String) (size : Int)
  | instrument (id : String) (settings : Option Named)
      (bindings : List (String × String)) (provider : Provider)
  | clientModule (id : String) (hasSession : Bool)
  | patch (instrument module_ : String)
  | unpatch (instrument module_ : String)
  /-- The arguments are written out; `streamed` says whether the content is left on the wire. -/
  | send (request module_ : String) (plan : SendPlan) (arguments : String) (streamed : Bool)
      (parent : Option (String × String))

/-! ## Answers -/

/-- What an entity says about itself. -/
structure Description where
  kind : String
  repeatable : Item
  length : Item
  type : Item
  encoding : Item
  content : Option Bytes
  line : Option String

/-- Which entity it is. -/
inductive EntityAnswer where
  | none
  | known (name : String)
  | fresh (d : Description)

/-- An answer. -/
inductive Answer where
  | nothing
  | flag (b : Bool)
  | optionalFlag (b : Option Bool)
  | name (n : String)
  | optionalName (n : Option String)
  | value (v : Value)
  | values (vs : List Value)
  | contents (vs : List Value)
  | copied (count : Nat) (buffer : Bytes)
  | bounded (r : BoundedRead)
  | description (d : Description)
  | settings (s : CaptureSettings)
  | entity (e : EntityAnswer)
  | failed (f : Fault)
  | captured (body : Option CapturedBody) (entity : EntityAnswer) (replaced : Bool) (limit : Int)
  | repeatable (entity : EntityAnswer) (bytesRead : Nat) (replaced : Bool)
  | recorded (attributes : List (String × Value)) (entity : EntityAnswer) (replaced : Bool)
  | attributes (entries : List (String × Value))
  | request (body : Body) (headers : Option (List (String × Value)))
  | response (status content : Value) (consumed : Bool)
      (headers : Option (List (String × Value)))
  | instrument (s : CaptureSettings)

/-- Why a step gave no answer. -/
inductive Problem where
  | fault (f : Fault)
  /-- No object has the name. -/
  | unknownName

/-- What is known of one step: its outcome, the lines of the log, the calls on stand-ins, and what
concerns spans and sending. -/
structure Record where
  outcome : Except Problem Answer
  log : List LogRecord
  trace : List Event
  spanValues : List (String × Value)
  /-- The body that was sent, if the bare function came to read it. -/
  sent : Option Value
  started : Nat
  finished : List LiveSpan

end Scenario
end HttpTap
