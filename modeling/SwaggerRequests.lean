import SwaggerRequests.Main
import SwaggerRequests.Proofs.Declarations
import SwaggerRequests.Proofs.Typing
import SwaggerRequests.Proofs.Bundle
import SwaggerRequests.Proofs.FunctionNames
import SwaggerRequests.Proofs.Imports
import SwaggerRequests.Proofs.Headers
import SwaggerRequests.Proofs.Operations
import SwaggerRequests.Proofs.Growth
import SwaggerRequests.Proofs.ElementNames
import SwaggerRequests.Proofs.Bindings
import SwaggerRequests.Proofs.Overriding
import SwaggerRequests.Proofs.TopLevelNames
import SwaggerRequests.Proofs.Comments
import SwaggerRequests.Proofs.TypeExpressions
import SwaggerRequests.Proofs.UndefinedClasses
import SwaggerRequests.Proofs.StringLiterals
import SwaggerRequests.Proofs.Quotations
import SwaggerRequests.Proofs.NameSearch
import SwaggerRequests.Proofs.Identifiers
import SwaggerRequests.Proofs.DeadDeclarations
import SwaggerRequests.Proofs.DerivedNames
import SwaggerRequests.Proofs.ParameterLevels
import SwaggerRequests.Proofs.Payload
import SwaggerRequests.Proofs.ModelImports
import SwaggerRequests.Proofs.Versions
import SwaggerRequests.Proofs.Reports
import SwaggerRequests.Proofs.Influence
import SwaggerRequests.Proofs.SchemaForm
import SwaggerRequests.Proofs.RoundTrip
import SwaggerRequests.Proofs.Delivery
