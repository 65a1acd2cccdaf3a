import SwaggerCmdlets.Main
import SwaggerCmdlets.Proofs.Merge.Selection
import SwaggerCmdlets.Proofs.Walk.Order
import SwaggerCmdlets.Proofs.Walk.Success
import SwaggerCmdlets.Proofs.Walk.Outcomes
import SwaggerCmdlets.Proofs.Walk.Requests
import SwaggerCmdlets.Proofs.Path.Scan
import SwaggerCmdlets.Proofs.Merge.Declarations
import SwaggerCmdlets.Proofs.Merge.Requirements
import SwaggerCmdlets.Proofs.Merge.Variables
import SwaggerCmdlets.Proofs.Merge.Inspection
import SwaggerCmdlets.Proofs.Module.CommandNames
import SwaggerCmdlets.Proofs.Walk.Origin
import SwaggerCmdlets.Proofs.Script.PieceTypes
import SwaggerCmdlets.Proofs.Module.ScriptTypes
import SwaggerCmdlets.Proofs.Registry.Registrations
import SwaggerCmdlets.Proofs.Path.Reading
import SwaggerCmdlets.Proofs.Path.Marker
import SwaggerCmdlets.Proofs.Merge.Types
import SwaggerCmdlets.Proofs.Merge.Reordering
import SwaggerCmdlets.Proofs.Registry.Enumerations
import SwaggerCmdlets.Proofs.Registry.Sections
import SwaggerCmdlets.Proofs.Registry.PropertyTypes
import SwaggerCmdlets.Proofs.Path.Segments
import SwaggerCmdlets.Proofs.Walk.Endpoints
import SwaggerCmdlets.Proofs.Script.Expansion
import SwaggerCmdlets.Proofs.Url.Base
import SwaggerCmdlets.Proofs.Script.Bodies
import SwaggerCmdlets.Proofs.Description.Entries
import SwaggerCmdlets.Proofs.Script.Occurrences
import SwaggerCmdlets.Proofs.Script.Renormalization
import SwaggerCmdlets.Proofs.Module.BeginBlocks
import SwaggerCmdlets.Proofs.Config.Environments
import SwaggerCmdlets.Proofs.Config.NamedValues
