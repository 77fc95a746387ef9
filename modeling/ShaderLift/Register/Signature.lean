import ShaderLift.Declaration.Signature

namespace ShaderLift

inductive Side where
  | input | output
  deriving DecidableEq

def Side.mark : Side → Char
  | .input => 'v'
  | .output => 'o'

def Side.structureName : Side → Text
  | .input => "input"
  | .output => "output"

structure SignatureEntry where
  signature : Signature
  expression : Text
  deriving DecidableEq

namespace Signature

/-- Numbers rows among those of their semantic, when `earlier` stand in front of them and `all` is
the whole signature. -/
def rankFrom (all earlier : List Signature) : List Signature → List Signature
  | [] => []
  | s :: rest =>
    { s with
      arraySize := all.countP (·.semantic = s.semantic)
      arrayIndex := earlier.countP (·.semantic = s.semantic) } ::
      rankFrom all (earlier ++ [s]) rest

/-- Gives each row the number of rows that share its semantic and its place among them. -/
def rank (rows : List Signature) : List Signature := rankFrom rows [] rows

def isStructField (s : Signature) : Bool := s.systemValue = "NONE" || s.systemValue = "POS"

def keys (side : Side) (s : Signature) : List Text :=
  match s.register with
  | none => [s.registerName]
  | some n => [side.mark :: Text.ofInt n, side.mark :: "[" ++ Text.ofInt n ++ "]"]

end Signature

/-- What the rows of one semantic become: a field or a parameter, and an expression for each. -/
structure SemanticGroup where
  field : Option Text
  parameter : Option Parameter
  entries : List SignatureEntry

def Signature.parameter (s : Signature) : Parameter :=
  (Parameter.ofSystemValue? s.systemValue).getD
    { type := s.typeName, name := s.fieldName, semantic := s.semanticText }

def elementExpression (base : Text) (size index : Nat) : Text :=
  if 1 < size then base ++ "[" ++ Text.ofNat index ++ "]" else base

/-- Resolves the rows of one semantic; the first row decides for all of them. -/
def SemanticGroup.ofRows (side : Side) : List Signature → SemanticGroup
  | [] => ⟨none, none, []⟩
  | first :: others =>
    let rows := first :: others
    let size := rows.length
    if side = .input && !first.isStructField then
      let parameter := first.parameter
      ⟨none, some parameter, rows.map fun row => ⟨row, parameter.name⟩⟩
    else
      let array : Text := if 1 < size then "[" ++ Text.ofNat size ++ "]" else ""
      let base := side.structureName ++ "." ++ first.fieldName
      let field :=
        first.typeName ++ " " ++ first.fieldName ++ array ++ " : " ++ first.semanticText ++ ";"
      ⟨some field, none,
        rows.zipIdx.map fun (row, index) => ⟨row, elementExpression base size index⟩⟩

structure SideTables where
  fields : List Text := []
  parameters : List Parameter := []
  entries : Table (List SignatureEntry) := []

namespace SideTables

def enter (side : Side) (table : Table (List SignatureEntry)) (entry : SignatureEntry) :
    Table (List SignatureEntry) :=
  (entry.signature.keys side).foldl (fun table key => table.addTo key entry) table

/-- Resolves numbered rows, semantic by semantic in the order of their first rows. -/
def ofRows (side : Side) (rows : List Signature) : SideTables :=
  let groups := (Table.groupBy Signature.semantic rows).map fun (_, group) =>
    SemanticGroup.ofRows side group
  { fields := groups.filterMap SemanticGroup.field
    parameters := groups.filterMap SemanticGroup.parameter
    entries := (groups.flatMap SemanticGroup.entries).foldl (enter side) [] }

end SideTables
end ShaderLift
