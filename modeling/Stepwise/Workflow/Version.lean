import Stepwise.Json.Printer
import Stepwise.Text.Sha256
import Stepwise.Workflow.Wire

namespace Stepwise.Workflow

def canonicalText (w : Workflow) : String := (w.write Json.obj).compact

/-- The digest of the text of a workflow with the fields in the order of their declaration. -/
def version (w : Workflow) : String := Text.Sha256.hexDigest w.canonicalText

end Stepwise.Workflow
