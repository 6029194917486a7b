/-!
# The error catalogue

Every cause of failure has a numbered code with a text, steps that mend it and, for some
areas, a page to read. The hundreds of a number say which area it belongs to.
-/

namespace Runbook

/-- The areas of the catalogue. -/
inductive ErrorArea where
  | config
  | metadata
  | validation
  | assembly
  | publish
  | alarm
  | internal
deriving DecidableEq, Repr

namespace ErrorArea

/-- All areas in the order of their numbers. -/
def all : List ErrorArea :=
  [.config, .metadata, .validation, .assembly, .publish, .alarm, .internal]

/-- The name of an area as people read it. -/
def name : ErrorArea → String
  | .config => "Configuration"
  | .metadata => "Metadata"
  | .validation => "Validation"
  | .assembly => "Assembly"
  | .publish => "Publish"
  | .alarm => "Alarm"
  | .internal => "Internal"

/-- The name of an area in records. -/
def word : ErrorArea → String
  | .config => "config"
  | .metadata => "metadata"
  | .validation => "validation"
  | .assembly => "assembly"
  | .publish => "publish"
  | .alarm => "alarm"
  | .internal => "internal"

/-- The area that a word names. -/
def parse? (text : String) : Option ErrorArea := all.find? fun area => area.word = text

/-- The area of a number: its hundreds decide. -/
def ofNumber (number : Nat) : ErrorArea :=
  match number / 100 with
  | 0 => .config
  | 1 => .metadata
  | 2 => .validation
  | 3 => .assembly
  | 4 => .publish
  | 5 => .alarm
  | _ => .internal

/-- The page to read about an area. -/
def page? : ErrorArea → Option String
  | .metadata => some "https://github.com/aws-samples/aws-digito-artifacts-gameday#metadata"
  | .validation =>
      some "https://github.com/aws-samples/aws-digito-artifacts-gameday#document-rules"
  | _ => none

end ErrorArea

/-- What the catalogue says about a failure. -/
structure CatalogEntry where
  code : String
  area : ErrorArea
  message : String
  remedies : List String
  page : Option String
deriving DecidableEq, Repr

namespace CatalogEntry

/-- One line about an entry. -/
def brief (entry : CatalogEntry) : String := "[" ++ entry.code ++ "] " ++ entry.message

/-- The numbered steps of an entry, from `number` on. -/
def steps (number : Nat) : List String → String
  | [] => ""
  | step :: rest => "  " ++ toString number ++ ". " ++ step ++ "\n" ++ steps (number + 1) rest

/-- Everything about an entry. -/
def full (entry : CatalogEntry) : String :=
  entry.brief ++ "\n\n"
    ++ (if entry.remedies.isEmpty then "" else "Remediation steps:\n" ++ steps 1 entry.remedies)
    ++ (match entry.page with
        | some page => "\nFor more information: " ++ page ++ "\n"
        | none => "")

end CatalogEntry

/-- The causes of failure. -/
inductive ErrorCode where
  | environment
  | region
  | bucketMissing
  | pathMissing
  | metadataMissing
  | metadataRead
  | metadataParse
  | metadataInvalid
  | metadataNotUnique
  | dependencyMissing
  | documentParse
  | ruleViolation
  | contentRead
  | snippetMissing
  | scriptParse
  | builderMissing
  | builderFailed
  | createFailed
  | updateFailed
  | defaultVersionFailed
  | describeFailed
  | templateMissing
  | variablesMissing
  | uploadFailed
  | stackFailed
  | noMetrics
  | metricQueryFailed
  | teardownFailed
  | alarmDuplicate
  | logging
deriving DecidableEq, Repr

namespace ErrorCode

/-- All codes in the order of their numbers. -/
def all : List ErrorCode :=
  [.environment, .region, .bucketMissing, .pathMissing,
    .metadataMissing, .metadataRead, .metadataParse, .metadataInvalid, .metadataNotUnique,
    .dependencyMissing,
    .documentParse, .ruleViolation,
    .contentRead, .snippetMissing, .scriptParse, .builderMissing, .builderFailed,
    .createFailed, .updateFailed, .defaultVersionFailed, .describeFailed,
    .templateMissing, .variablesMissing, .uploadFailed, .stackFailed, .noMetrics,
    .metricQueryFailed, .teardownFailed, .alarmDuplicate,
    .logging]

/-- What is fixed about a code: its number, its name in records, its message and the steps
that mend it. -/
structure Facts where
  number : Nat
  word : String
  message : String
  remedies : List String

/-- The steps after a failed call to the document service. -/
def publishRemedies : List String :=
  ["Check AWS credentials and ssm:*Document permissions", "Re-run the publish: it is idempotent"]

/-- The facts of each code. -/
def facts : ErrorCode → Facts
  | .environment => ⟨1, "CONFIG_ENV_ERROR", "Environment variable has invalid value",
      ["Check DIGITO_* environment variables for typos",
        "Run with -l debug to see which variable was rejected"]⟩
  | .region => ⟨2, "CONFIG_INVALID_REGION", "AWS region is not a valid region name",
      ["Use a region name such as eu-west-1 in DIGITO_REGION or AWS_REGION",
        "Or pass -r/--region on the command line"]⟩
  | .bucketMissing => ⟨3, "CONFIG_MISSING_BUCKET", "No S3 bucket configured for alarm templates",
      ["Export DIGITO_ALARM_BUCKET with a writable bucket name"]⟩
  | .pathMissing => ⟨4, "CONFIG_PATH_NOT_FOUND", "Configured path does not exist",
      ["Run the command from the repository root",
        "Or point DIGITO_DOCUMENTS_ROOT at the documents directory"]⟩
  | .metadataMissing => ⟨100, "METADATA_NOT_FOUND",
      "Metadata file or documents directory not found",
      ["Check that the documents root contains */Documents/metadata.json files"]⟩
  | .metadataRead => ⟨101, "METADATA_READ_ERROR", "Failed to read metadata file",
      ["Check file permissions on the metadata file"]⟩
  | .metadataParse => ⟨102, "METADATA_PARSE_ERROR",
      "Metadata file is not valid JSON for the expected shape",
      ["Validate the metadata file with a JSON linter", "Check that every value is a string"]⟩
  | .metadataInvalid => ⟨103, "METADATA_INVALID", "Metadata attributes failed validation",
      ["Fix each attribute reported in the log above",
        "Make sure the tag matches the directory path",
        "Make sure documentName follows Digito-<Action><Service><SOP|Test>_<date>"]⟩
  | .metadataNotUnique => ⟨104, "METADATA_NOT_UNIQUE",
      "Globally unique metadata attribute is duplicated",
      ["Rename one of the documents listed in the message",
        "Names are compared after stripping non-alphanumeric characters"]⟩
  | .dependencyMissing => ⟨105, "METADATA_DEPENDENCY_MISSING",
      "Requested or depended-on document has no metadata in the documents tree",
      ["Check the spelling of the document name in the manifest or dependsOn",
        "Alarm documents cannot be published as SSM documents"]⟩
  | .documentParse => ⟨200, "VALIDATION_DOCUMENT_PARSE", "Automation document could not be parsed",
      ["Validate the document YAML/JSON syntax"]⟩
  | .ruleViolation => ⟨201, "VALIDATION_RULE_VIOLATION",
      "Automation document violates its rule set",
      ["Fix each violation listed for the document",
        "Use --warn-only <service> while migrating an existing service"]⟩
  | .contentRead => ⟨300, "ASSEMBLE_CONTENT_READ", "Failed to read document content file",
      ["Check documentContentPath in metadata.json"]⟩
  | .snippetMissing => ⟨301, "ASSEMBLE_SNIPPET_NOT_FOUND",
      "Script placeholder references an unknown snippet",
      ["Check the <module>.<function> after SCRIPT_PLACEHOLDER::",
        "Make sure the function is defined at top level of the script"]⟩
  | .scriptParse => ⟨302, "ASSEMBLE_SCRIPT_PARSE", "Helper script could not be parsed",
      ["Check the helper script for syntax errors"]⟩
  | .builderMissing => ⟨303, "ASSEMBLE_BUILDER_NOT_REGISTERED",
      "Document builder is not registered",
      ["Register a DocumentBuilder for the adkPath value"]⟩
  | .builderFailed => ⟨304, "ASSEMBLE_BUILDER_FAILED", "Document builder failed to render content",
      ["Run the builder in isolation to see its error"]⟩
  | .createFailed => ⟨400, "PUBLISH_CREATE_FAILED", "Failed to create SSM document",
      publishRemedies⟩
  | .updateFailed => ⟨401, "PUBLISH_UPDATE_FAILED", "Failed to update SSM document",
      publishRemedies⟩
  | .defaultVersionFailed => ⟨402, "PUBLISH_DEFAULT_VERSION_FAILED",
      "Failed to advance SSM document default version", publishRemedies⟩
  | .describeFailed => ⟨403, "PUBLISH_DESCRIBE_FAILED", "Failed to read live SSM document state",
      publishRemedies⟩
  | .templateMissing => ⟨500, "ALARM_TEMPLATE_NOT_FOUND",
      "Alarm template not found for reference id",
      ["Check the reference id format service:alarm:name:version",
        "Check alarmContentPath in the alarm metadata.json"]⟩
  | .variablesMissing => ⟨501, "ALARM_MISSING_VARIABLES", "Alarm template variables are not bound",
      ["Bind every $\x7bVariable\x7d listed in the message"]⟩
  | .uploadFailed => ⟨502, "ALARM_UPLOAD_FAILED", "Failed to upload rendered alarm template",
      ["Check s3:PutObject permissions on the alarm bucket"]⟩
  | .stackFailed => ⟨503, "ALARM_STACK_FAILED", "Alarm stack deployment failed",
      ["Read the stack events included in the message",
        "Delete the failed stack before re-running"]⟩
  | .noMetrics => ⟨504, "ALARM_NO_METRICS", "Alarm template declares no recognizable metric",
      ["Make sure the template declares an AWS::CloudWatch::Alarm with MetricName or Metrics"]⟩
  | .metricQueryFailed => ⟨505, "ALARM_METRIC_QUERY_FAILED", "CloudWatch metric query failed",
      ["Check cloudwatch:GetMetricStatistics permissions"]⟩
  | .teardownFailed => ⟨506, "ALARM_TEARDOWN_FAILED", "Alarm stack deletion failed",
      ["Delete the listed stacks manually", "Check cloudformation:DeleteStack permissions"]⟩
  | .alarmDuplicate => ⟨507, "ALARM_DUPLICATE_ID", "Alarm id is already tracked by this manager",
      ["Pass a different alarm id", "Or tear down the deployed alarms before reusing the id"]⟩
  | .logging => ⟨600, "INTERNAL_LOGGING_ERROR", "Logging subsystem failed to initialize",
      ["Check DIGITO_LOG_LEVEL for an invalid directive"]⟩

/-- The number of a code. -/
def number (code : ErrorCode) : Nat := code.facts.number

/-- The name of a code in records. -/
def word (code : ErrorCode) : String := code.facts.word

/-- The message of a code. -/
def message (code : ErrorCode) : String := code.facts.message

/-- The code that a name in records stands for. -/
def parse? (text : String) : Option ErrorCode := all.find? fun code => code.word = text

/-- The area of a code. -/
def area (code : ErrorCode) : ErrorArea := ErrorArea.ofNumber code.number

/-- A number written with at least three digits. -/
def threeDigits (number : Nat) : String :=
  let digits := toString number
  String.ofList (List.replicate (3 - digits.length) '0') ++ digits

/-- How a code is written. -/
def text (code : ErrorCode) : String := "DG-E" ++ threeDigits code.number

/-- A code with its message. -/
def summary (code : ErrorCode) : String := code.text ++ ": " ++ code.message

/-- Where a code stands in the catalogue. -/
def position (code : ErrorCode) : Nat := all.idxOf code

/-- The catalogue's entry for a code. -/
def entry (code : ErrorCode) : CatalogEntry :=
  ⟨code.text, code.area, code.message, code.facts.remedies, code.area.page?⟩

end ErrorCode

end Runbook
