import Stepwise.Validation.Names
import Stepwise.Validation.Operators

namespace Stepwise.Validation

def builtin : List Rule :=
  [requiredFields, conditionOperators, projectionShape, fetchShape, reservedFields, undefinedImport,
    resultVariable]

def withProviders (types : List String) : List Rule := builtin ++ [knownProviders types]

end Stepwise.Validation
