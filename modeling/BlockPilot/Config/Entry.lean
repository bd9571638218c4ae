import BlockPilot.Config.Basic
import BlockPilot.Json.Printer
import BlockPilot.Json.Record

/-!
# Entries of a configuration

A configuration is divided into sections, and a section into entries. `Section.all` lists them once
for all: how they are called, what they hold, and where a configuration keeps them. The JSON form of
a configuration is read and written by this list.
-/

namespace BlockPilot.Config

/-- A part of a configuration. -/
structure Access (α : Type) where
  get : Config → α
  set : α → Config → Config

/-- What an entry holds; `expected` is what messages call it. -/
inductive Kind where
  | text (expected : String) (access : Access String)
  | natural (expected : String) (access : Access Nat)
  | format (access : Access LogFormat)

structure Entry where
  name : String
  kind : Kind

structure Section where
  name : String
  /-- What messages call the section. -/
  title : String
  entries : List Entry

namespace Section

def application : Section where
  name := "application"
  title := "ApplicationConfig"
  entries := [
    ⟨"name", .text "a string" ⟨(·.application.name),
      fun v c => { c with application := { c.application with name := v } }⟩⟩,
    ⟨"log_level", .text "a string" ⟨(·.application.logLevel),
      fun v c => { c with application := { c.application with logLevel := v } }⟩⟩,
    ⟨"log_format", .format ⟨(·.application.logFormat),
      fun v c => { c with application := { c.application with logFormat := v } }⟩⟩]

def device : Section where
  name := "device"
  title := "DeviceConfig"
  entries := [
    ⟨"address", .text "a string" ⟨(·.device.address), setAddress⟩⟩,
    ⟨"settle_delay_ms", .natural "u64" ⟨(·.device.settleDelay),
      fun v c => { c with device := { c.device with settleDelay := v } }⟩⟩,
    ⟨"request_timeout_ms", .natural "u64" ⟨(·.device.requestTimeout),
      fun v c => { c with device := { c.device with requestTimeout := v } }⟩⟩]

def interpreter : Section where
  name := "interpreter"
  title := "InterpreterConfig"
  entries := [
    ⟨"pacing_delay_ms", .natural "u64" ⟨(·.interpreter.pacingDelay),
      fun v c => { c with interpreter := { c.interpreter with pacingDelay := v } }⟩⟩,
    ⟨"event_buffer", .natural "usize" ⟨(·.interpreter.eventBuffer),
      fun v c => { c with interpreter := { c.interpreter with eventBuffer := v } }⟩⟩]

def storage : Section where
  name := "storage"
  title := "StorageConfig"
  entries := [
    ⟨"program_dir", .text "path string" ⟨(·.storage.programDirectory),
      fun v c => { c with storage := { c.storage with programDirectory := v } }⟩⟩]

def all : List Section := [application, device, interpreter, storage]

end Section

/-- What messages call a whole configuration. -/
def title : String := "BotConfig"

/-! ## JSON form -/

/-- The value of an entry. -/
def Kind.toJson (c : Config) : Kind → Json
  | .text _ access => .string (access.get c)
  | .natural _ access => .number (.integer (access.get c))
  | .format access => .string (access.get c).name

/-- Writes a section in front of `rest`. -/
def Section.textOnto (c : Config) (s : Section) (rest : List Char) : List Char :=
  Json.recordOnto rest <| s.entries.map fun e =>
    (e.name, fun rest => (e.kind.toJson c).compactOnto rest)

/-- The text of a configuration, with its sections and entries in their order. -/
def jsonText (c : Config) : String :=
  String.ofList (Json.recordOnto [] (Section.all.map fun s => (s.name, s.textOnto c)))

/-- Reads an entry's value. -/
def Kind.read (c : Config) : Kind → Json.Reader Config
  | .text expected access => fun s => do
    let (v, rest) ← Json.readStringAs expected s
    .ok (access.set v c, rest)
  | .natural expected access => fun s => do
    let (v, rest) ← Json.readNatural expected s
    .ok (access.set v c, rest)
  | .format access => fun s => do
    let (v, rest) ← Json.readVariant LogFormat.names s
    .ok (access.set v c, rest)

def Section.record (s : Section) : Json.Record Config :=
  ⟨s.title, s.entries.map fun e => ⟨e.name, false, fun c => e.kind.read c⟩⟩

def record : Json.Record Config :=
  ⟨title, Section.all.map fun s =>
    ⟨s.name, false, fun c => s.record.read (Json.depthLimit - 1) c⟩⟩

/-- The configuration that a text gives; what it leaves out has its default. -/
def parse (text : String) : Except JsonFault Config :=
  Json.readText (record.read Json.depthLimit defaults) text

end BlockPilot.Config
