import RecordSearch.Config.Layout
import RecordSearch.Store

/-!
The commands that work on records, as functions of a configuration and the registry of the records'
type: adding tokens to records, and filtering records by a query.
-/

namespace RecordSearch.Command

/-- The records of a text: those of a list, or a single one. -/
def recordsOf : Json → List Json
  | .array records => records
  | record => [record]

/-! ## Adding tokens -/

/-- Puts the tokens of a record under the index field; only an object has room for them. -/
def indexRecord? (c : Config) (r : FieldRegistry) (record : Json) : Option Json :=
  match record with
  | .object entries =>
    some (.object (Json.put c.settings.indexField
      (.array ((c.indexer.index record r).map .string)) entries))
  | _ => none

/-- Adds tokens to records, the first of which stands at `position`; the position of the first that
has no room for them is the error. -/
def indexFrom (c : Config) (r : FieldRegistry) (position : Nat) :
    List Json → Except Nat (List Json)
  | [] => .ok []
  | record :: records =>
    match indexRecord? c r record with
    | none => .error position
    | some indexed =>
      match indexFrom c r (position + 1) records with
      | .ok rest => .ok (indexed :: rest)
      | .error n => .error n

def indexRecords (c : Config) (r : FieldRegistry) (records : List Json) :
    Except Nat (List Json) :=
  indexFrom c r 0 records

theorem indexFrom_eq_ok_iff {c : Config} {r : FieldRegistry} {records indexed : List Json}
    {n : Nat} : indexFrom c r n records = .ok indexed ↔
      records.mapM (indexRecord? c r) = some indexed := by
  induction records generalizing n indexed with
  | nil => simp [indexFrom]
  | cons record records ih =>
    cases hfirst : indexRecord? c r record with
    | none => simp [indexFrom, hfirst]
    | some first =>
      simp only [indexFrom, hfirst, List.mapM_cons]
      cases hfrom : indexFrom c r (n + 1) records with
      | ok rest => simp [ih.mp hfrom]
      | error m =>
        have hnone : records.mapM (indexRecord? c r) = none := by
          cases hmap : records.mapM (indexRecord? c r) with
          | none => rfl
          | some rest => simp [(ih (n := n + 1)).mpr hmap] at hfrom
        simp [hnone]

/-! ## Filtering -/

def storeOf (c : Config) (r : FieldRegistry) (records : List Json) : RecordStore :=
  (RecordStore.empty r c.indexer).insertAll records

/-- The records that satisfy a query, with their tokens. -/
def searchRecords (c : Config) (r : FieldRegistry) (query : String) (records : List Json) :
    List StoredRecord :=
  (storeOf c r records).search query

/-- A found record, beside its tokens if they are wanted. -/
def found (withTokens : Bool) (s : StoredRecord) : Json :=
  if withTokens then .object [("record", s.record), ("tokens", .array (s.tokens.map .string))]
  else s.record

end RecordSearch.Command
