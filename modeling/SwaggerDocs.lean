import SwaggerDocs.CommandLine.Run
import SwaggerDocs.Generation.Build
import SwaggerDocs.Loading.Sources
import SwaggerDocs.Main
import SwaggerDocs.Proofs.Docs.InfoBlocks
import SwaggerDocs.Proofs.Docs.Reading
import SwaggerDocs.Proofs.Generation.Aliases
import SwaggerDocs.Proofs.Generation.Documents
import SwaggerDocs.Proofs.Generation.IgnoredLines
import SwaggerDocs.Proofs.Generation.Insertion
import SwaggerDocs.Proofs.Generation.Omissions
import SwaggerDocs.Proofs.Generation.Parameters
import SwaggerDocs.Proofs.Generation.Recursion
import SwaggerDocs.Proofs.Generation.Termination
import SwaggerDocs.Proofs.Loading.Sources
import SwaggerDocs.Proofs.Source.Comments
import SwaggerDocs.Proofs.Source.FieldOptions
import SwaggerDocs.Source.File
import SwaggerDocs.Swagger.Decoding
import SwaggerDocs.Swagger.Encoding
import SwaggerDocs.Yaml.Printer
