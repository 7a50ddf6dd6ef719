import SchemaDefaults.CodeWriter.Program
import SchemaDefaults.Configuration.Text
import SchemaDefaults.Json.Reader
import SchemaDefaults.Json.Text
import SchemaDefaults.Main
import SchemaDefaults.Schema.Encode
import SchemaDefaults.Proofs.AcceptedConfigurations
import SchemaDefaults.Proofs.BlankNames
import SchemaDefaults.Proofs.BoundSettings
import SchemaDefaults.Proofs.CheckAgreement
import SchemaDefaults.Proofs.Components
import SchemaDefaults.Proofs.ConfigurationRoundTrip
import SchemaDefaults.Proofs.DefaultAccounting
import SchemaDefaults.Proofs.DepthFirst
import SchemaDefaults.Proofs.DiskCalls
import SchemaDefaults.Proofs.DiskContent
import SchemaDefaults.Proofs.FieldNames
import SchemaDefaults.Proofs.Identifiers
import SchemaDefaults.Proofs.KeyOrder
import SchemaDefaults.Proofs.LevelReloads
import SchemaDefaults.Proofs.MethodText
import SchemaDefaults.Proofs.NestedNames
import SchemaDefaults.Proofs.OneLine
import SchemaDefaults.Proofs.OptionReadings
import SchemaDefaults.Proofs.OutputPaths
import SchemaDefaults.Proofs.PassOrder
import SchemaDefaults.Proofs.Positions
import SchemaDefaults.Proofs.ReadBack
import SchemaDefaults.Proofs.SchemaRoundTrip
import SchemaDefaults.Proofs.SectionSettings
import SchemaDefaults.Proofs.ShownRecords
import SchemaDefaults.Proofs.SingleFiles
import SchemaDefaults.Proofs.Texts
import SchemaDefaults.Proofs.TypeNames
import SchemaDefaults.Proofs.WrittenLines
import SchemaDefaults.Proofs.WrittenFiles
import SchemaDefaults.Proofs.UniformIndentation
import SchemaDefaults.Proofs.StoredSections
import SchemaDefaults.Proofs.PackageClause
