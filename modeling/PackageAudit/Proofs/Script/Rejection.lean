import PackageAudit.Proofs.Script.Repair
import PackageAudit.Proofs.Script.Statement
import PackageAudit.Script.Rejection

namespace PackageAudit.Script

open Syntax

end PackageAudit.Script
