import SqlTemplate.Build

/-!
# Compiled templates kept

A cache keeps the templates compiled last, the oldest first, up to its limit; using a kept template makes it the
newest.  A limit of zero or less leaves the cache alone.
-/

namespace SqlTemplate

structure Cache where
  limit : Int
  entries : List (Text × Template)

namespace Cache

def defaultLimit : Int := 512

def empty : Cache := ⟨defaultLimit, []⟩

def keys (c : Cache) : List Text := c.entries.map Prod.fst

def get? (c : Cache) (source : Text) : Option Template :=
  (c.entries.find? fun entry => entry.1 = source).map Prod.snd

/-- What a cache answers for a template, and the cache afterwards. -/
structure Lookup where
  cache : Cache
  hit : Bool
  evicted : List Text
  outcome : Except TemplateError Template

/-- Makes the entry of a source the newest. -/
def refresh (c : Cache) (source : Text) (t : Template) : Cache :=
  ⟨c.limit, c.entries.filter (fun entry => entry.1 ≠ source) ++ [(source, t)]⟩

/-- By how many a new entry makes the cache too large. -/
def surplus (c : Cache) : Nat := c.entries.length + 1 - c.limit.toNat

def insert (c : Cache) (source : Text) (t : Template) : Cache :=
  ⟨c.limit, (c.entries ++ [(source, t)]).drop c.surplus⟩

/-- The sources that `insert` drops. -/
def evictedBy (c : Cache) (source : Text) : List Text := (c.keys ++ [source]).take c.surplus

def compile (c : Cache) (source : Text) : Lookup :=
  if c.limit ≤ 0 then ⟨c, false, [], Template.compile source⟩
  else
    match c.get? source with
    | some t => ⟨c.refresh source t, true, [], .ok t⟩
    | none =>
      match Template.compile source with
      | .ok t => ⟨c.insert source t, false, c.evictedBy source, .ok t⟩
      | .error e => ⟨c, false, [], .error e⟩

def Lookup.log (l : Lookup) : List Record := l.evicted.map .evicted

inductive Step
  | setLimit (limit : Int)
  | clear
  | compile (source : Text)
  | build (source : Text) (args : Value)

inductive Reply
  | done
  | compiled (l : Lookup)
  | built (r : Report)

def Reply.log : Reply → List Record
  | .done => []
  | .compiled l => l.log
  | .built r => r.log

def step (escape : Escape) (c : Cache) : Step → Cache × Reply
  | .setLimit limit => (⟨limit, c.entries⟩, .done)
  | .clear => (⟨c.limit, []⟩, .done)
  | .compile source =>
    let l := c.compile source
    (l.cache, .compiled l)
  | .build source args =>
    let l := c.compile source
    (l.cache, .built ((renderWith l.outcome args escape).logFirst l.log))

/-- The cache and the reply after each step. -/
def run (escape : Escape) (c : Cache) : List Step → List (Cache × Reply)
  | [] => []
  | s :: rest =>
    let reached := c.step escape s
    reached :: run escape reached.1 rest

end Cache

end SqlTemplate
