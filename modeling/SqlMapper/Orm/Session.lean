import SqlMapper.Connection.Basic
import SqlMapper.Orm.Operation

/-!
Sessions. A mapper has a connection to read from, one to write to, and settings.
A session keeps the metadata cache and the default connections, from which a
mapper can be made when both are set. A mapper keeps the connections it was made
with.
-/

namespace SqlMapper

structure Orm (σ : Type) where
  reader : Connection σ
  writer : Connection σ
  settings : Settings

structure Defaults (σ : Type) where
  reader : Option (Connection σ)
  writer : Option (Connection σ)

namespace Defaults

variable {σ : Type}

def none : Defaults σ := ⟨.none, .none⟩

def setReader (d : Defaults σ) (c : Connection σ) : Defaults σ := { d with reader := some c }

def setWriter (d : Defaults σ) (c : Connection σ) : Defaults σ := { d with writer := some c }

def setBoth (d : Defaults σ) (c : Connection σ) : Defaults σ := (d.setReader c).setWriter c

def get (d : Defaults σ) : Side → Except Error (Connection σ)
  | .reader => d.reader.elim (.error (.noDefault .reader)) .ok
  | .writer => d.writer.elim (.error (.noDefault .writer)) .ok

end Defaults

structure World (σ : Type) where
  cache : Cache
  defaults : Defaults σ
  state : σ

namespace World

variable {σ α : Type}

def start (s : σ) : World σ := ⟨.empty, .none, s⟩

def lift (x : Exec σ α) : Exec (World σ) α := x.onPart World.state fun w s => { w with state := s }

def modifyDefaults (change : Defaults σ → Defaults σ) : Exec (World σ) Unit := do
  let w ← Exec.get
  Exec.set { w with defaults := change w.defaults }

end World

namespace Orm

variable {σ α : Type}

def withConnections (reader writer : Connection σ) : Orm σ := ⟨reader, writer, {}⟩

def new (c : Connection σ) : Orm σ := withConnections c c

def withSettings (o : Orm σ) (settings : Settings) : Orm σ := { o with settings := settings }

/-- A mapper on the default connections; the reader is looked up first. -/
def ofDefaults (d : Defaults σ) : Except Error (Orm σ) := do
  let reader ← d.get .reader
  let writer ← d.get .writer
  return withConnections reader writer

def connection (o : Orm σ) : Side → Connection σ
  | .reader => o.reader
  | .writer => o.writer

def finish (o : Orm σ) : Plan α → Exec σ (Except Error α)
  | .answer a => return .ok a
  | .send side query finish => do
    match ← (o.connection side).execute query with
    | .ok outcome => return finish outcome
    | .error e => return .error e

def perform (o : Orm σ) (op : Operation α) : Exec (World σ) (Except Error α) := do
  let w ← Exec.get
  let (planned, cache) := (op.plan o.settings).run.run w.cache
  Exec.set { w with cache := cache }
  match planned with
  | .ok plan => World.lift (o.finish plan)
  | .error e => return .error e

end Orm

end SqlMapper
