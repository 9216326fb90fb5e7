import PropertyGraph.Toml.Value

/-!
# Building tables

- `Toml.Path`: a dotted key: names of tables and a last name.
- `Toml.Table.assign`: bind a value at a dotted key. **Only what dotted keys made may be
  added to**: the tables on the way are new, or came about by dotted keys.
- `Toml.Table.update`: change what is bound at the path of a header. Headers may name
  tables inside other tables, however those came about, unless they stand in braces; a
  list of tables stands for its last item.
- `Toml.Table.define`, `Toml.Table.append`: what headers do.
-/

namespace PropertyGraph

namespace Toml

/-- A dotted key. -/
structure Path where
  tables : List String
  name : String

namespace Table

/-- Bind a name, in the place of its former value if it has one. -/
def set (name : String) (v : Value) : Table → Table
  | [] => [(name, v)]
  | (n, old) :: t => if n = name then (name, v) :: t else (n, old) :: set name v t

/-- Bind a value to a new name. -/
def add (name : String) (v : Value) (t : Table) : Except Fault Table :=
  if (Bindings.get? name t).isSome then .error .redefined else .ok (t ++ [(name, v)])

/-- Bind a value to a new name, at the end of a path of tables. The last table on the
path has to come from dotted keys; on the way there, a table that a header implied and
the last item of a list of tables may be passed through. -/
def assignAt (name : String) (v : Value) : List String → Table → Except Fault Table
  | [], t => add name v t
  | k :: ks, t =>
    match Bindings.get? k t with
    | none => (assignAt name v ks []).map fun sub => set k (.table .dotted sub) t
    | some (.table .dotted sub) =>
      (assignAt name v ks sub).map fun sub => set k (.table .dotted sub) t
    | some (.table .implied sub) =>
      if ks.isEmpty then .error .redefined
      else (assignAt name v ks sub).map fun sub => set k (.table .implied sub) t
    | some (.array true items) =>
      if ks.isEmpty then .error .redefined
      else
        match items.reverse with
        | .table origin sub :: before =>
          (assignAt name v ks sub).map fun sub =>
            set k (.array true (.table origin sub :: before).reverse) t
        | _ => .error .redefined
    | some _ => .error .redefined

/-- Bind a value to a dotted key. -/
def assign (t : Table) (p : Path) (v : Value) : Except Fault Table := assignAt p.name v p.tables t

/-- Bind values to dotted keys, one after another. -/
def assignAll (t : Table) (entries : List (Path × Value)) : Except Fault Table :=
  entries.foldlM (fun t (p, v) => t.assign p v) t

/-- Change what is bound at the end of a path. -/
def updateAt (name : String) (f : Option Value → Except Fault Value) :
    List String → Table → Except Fault Table
  | [], t => (f (Bindings.get? name t)).map fun v => set name v t
  | k :: ks, t =>
    match Bindings.get? k t with
    | none => (updateAt name f ks []).map fun sub => set k (.table .implied sub) t
    | some (.table .inline _) => .error .redefined
    | some (.table origin sub) =>
      (updateAt name f ks sub).map fun sub => set k (.table origin sub) t
    | some (.array true items) =>
      match items.reverse with
      | .table origin sub :: before =>
        (updateAt name f ks sub).map fun sub =>
          set k (.array true (.table origin sub :: before).reverse) t
      | _ => .error .redefined
    | some _ => .error .redefined

/-- Change what is bound at the path of a header. -/
def update (t : Table) (p : Path) (f : Option Value → Except Fault Value) : Except Fault Table :=
  updateAt p.name f p.tables t

/-- The table of a header, which may so far have been implied. -/
def define (entries : List (Path × Value)) : Option Value → Except Fault Value
  | none => (assignAll [] entries).map (.table .header)
  | some (.table .implied sub) => (assignAll sub entries).map (.table .header)
  | some _ => .error .redefined

/-- A list of tables with one more. -/
def append (entries : List (Path × Value)) : Option Value → Except Fault Value
  | none => (assignAll [] entries).map fun t => .array true [.table .header t]
  | some (.array true items) =>
    (assignAll [] entries).map fun t => .array true (items ++ [.table .header t])
  | some _ => .error .redefined

end Table

end Toml

end PropertyGraph
