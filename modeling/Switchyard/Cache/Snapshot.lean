/-
  Switchyard.Cache.Snapshot
  ─────────────────────────
  The cache on disk: a JSON array of stored entries.

  Saving writes a temporary file beside the snapshot and then gives it the
  snapshot's name, so that a crash never leaves half a file.  Header values
  that cannot be read as text are left out.  Loading skips entries whose
  status or headers are no longer valid, and those that are expired.
-/
import Switchyard.Cache.Basic
import Switchyard.Files.System
import Switchyard.Json.Typed
import Switchyard.Json.Value

namespace Switchyard

/-! ## §1. The stored form of an entry. -/

structure StoredEntry where
  key : CacheKey
  status : Nat
  headers : List (String × String)
  body : Bytes
  createdAt : Nat
  deriving DecidableEq, Repr, Inhabited

namespace StoredEntry

/-- The stored form of an entry, with the header values that can be read. -/
def ofEntry (k : CacheKey) (e : Entry) : StoredEntry :=
  { key := k
    status := e.response.status.code
    headers := e.response.headers.fields.filterMap fun (name, value) =>
      value.text?.map fun text => (name.text, text)
    body := e.response.body
    createdAt := e.createdAt }

/-- The headers with the given names and values, if all of them are valid. -/
def headers? : List (String × String) → Option Headers
  | [] => some Headers.empty
  | (name, value) :: fields => do
      let name ← HeaderName.ofString? name
      let value ← HeaderValue.ofString? value
      let rest ← headers? fields
      return ⟨(name, value) :: rest.fields⟩

/-- The entry of a stored form, if its status and its headers are valid. -/
def toEntry? (s : StoredEntry) : Option (CacheKey × Entry) := do
  let status ← Status.ofNat? s.status
  let headers ← headers? s.headers
  return (s.key, ⟨⟨status, headers, s.body⟩, s.createdAt⟩)

/-! ## §2. Writing. -/

/-- A list of pairs of texts. -/
def pairsJson (ps : List (String × String)) : Json :=
  .array (ps.map fun (a, b) => .array [.text a, .text b])

def keyJson (k : CacheKey) : Json :=
  .object [("binding", .text k.binding), ("params", pairsJson k.params),
    ("query", Json.optionalText k.query)]

def toJson (s : StoredEntry) : Json :=
  .object [("key", keyJson s.key), ("status", .number s.status),
    ("headers", pairsJson s.headers), ("body", .array (s.body.map fun b => .number b.toNat)),
    ("created_at", .number s.createdAt)]

/-- The text of a snapshot. -/
def snapshotText (entries : List StoredEntry) : String := (Json.array (entries.map toJson)).print

/-! ## §3. Reading. -/

open Json (Reader)
open Json.Reader

def readPairs : Reader (List (String × String)) := array (pair text text)

def readBody : Reader Bytes := do
  return (← array (natBelow 256)).map UInt8.ofNat

/-- What is known of a key while its members are read. -/
structure KeyDraft where
  binding : Option String := none
  params : Option (List (String × String)) := none
  query : Option (Option String) := none

def keyMember (name : String) (d : KeyDraft) : Option (Reader KeyDraft) :=
  match name with
  | "binding" => once d.binding do return { d with binding := ← text }
  | "params" => once d.params do return { d with params := ← readPairs }
  | "query" => once d.query do return { d with query := some (← text?) }
  | _ => some do
      skipValue
      return d

/-- A key: an object, or its fields in order as an array. -/
def readKey : Reader CacheKey := do
  match ← ahead with
  | '\x7b' =>
      let _ ← next
      let d ← members keyMember {}
      return ⟨← need d.binding, ← need d.params, d.query.getD none⟩
  | '[' =>
      let _ ← next
      let binding ← text
      expect ','
      let params ← readPairs
      expect ','
      let query ← text?
      expect ']'
      return ⟨binding, params, query⟩
  | _ => misfit

/-- What is known of an entry while its members are read. -/
structure EntryDraft where
  key : Option CacheKey := none
  status : Option Nat := none
  headers : Option (List (String × String)) := none
  body : Option Bytes := none
  createdAt : Option Nat := none

def entryMember (name : String) (d : EntryDraft) : Option (Reader EntryDraft) :=
  match name with
  | "key" => once d.key do return { d with key := ← readKey }
  | "status" => once d.status do return { d with status := ← natBelow 65536 }
  | "headers" => once d.headers do return { d with headers := ← readPairs }
  | "body" => once d.body do return { d with body := ← readBody }
  | "created_at" => once d.createdAt do return { d with createdAt := ← natBelow UInt64.size }
  | _ => some do
      skipValue
      return d

/-- A stored entry: an object in which the headers may be missing, or its
fields in order as an array. -/
def readEntry : Reader StoredEntry := do
  match ← ahead with
  | '\x7b' =>
      let _ ← next
      let d ← members entryMember {}
      return ⟨← need d.key, ← need d.status, d.headers.getD [], ← need d.body, ← need d.createdAt⟩
  | '[' =>
      let _ ← next
      let key ← readKey
      expect ','
      let status ← natBelow 65536
      expect ','
      let headers ← readPairs
      expect ','
      let body ← readBody
      expect ','
      let createdAt ← natBelow UInt64.size
      expect ']'
      return ⟨key, status, headers, body, createdAt⟩
  | _ => misfit

/-- The stored entries of a snapshot's octets. -/
def parseSnapshot (content : Bytes) : Except Json.ReadFault (List StoredEntry) :=
  (array readEntry).run content

end StoredEntry

/-! ## §4. Loading and saving. -/

/-- Why a snapshot cannot be loaded. -/
inductive LoadError where
  | file (error : FileError)
  | content (fault : Json.ReadFault)
  deriving DecidableEq, Repr

namespace Cache

open StoredEntry

/-- Takes over the live entries of the snapshot, if there is one and the cache
is on.  Tells how many they were. -/
def load (c : Cache) (fs : FileSystem) (now : Nat) : Except LoadError (Nat × Cache) :=
  match c.snapshotPath? with
  | none => .ok (0, c)
  | some path =>
      if !c.enabled || !fs.pathExists path then .ok (0, c)
      else do
        let content ← (fs.read path).mapError .file
        let stored ← (parseSnapshot content).mapError .content
        return c.takeOver now (stored.filterMap toEntry?)

/-- The stored forms of all entries. -/
def storedEntries (c : Cache) : List StoredEntry :=
  c.entries.pairs.map fun (k, e) => ofEntry k e

/-- The writes that save a snapshot: all of it to a temporary file, which then
takes the snapshot's place. -/
def savePlan (c : Cache) (path : String) : List FileSystem.Write :=
  let temporary := Path.withExtension path "tmp"
  [.create temporary, .append temporary (Utf8.encode (snapshotText c.storedEntries)),
    .rename temporary path]

/-- Saves the snapshot, if the cache has a file for it.  Tells how many
entries it wrote. -/
def save (c : Cache) (fs : FileSystem) : Except FileError Nat × FileSystem :=
  match c.snapshotPath? with
  | none => (.ok 0, fs)
  | some path =>
      let (done, fs) := fs.run (c.savePlan path)
      (done.map fun _ => c.entries.size, fs)

end Cache

end Switchyard
