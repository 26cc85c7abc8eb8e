import AlertRelay.Failure.Basic

/-!
# Failures to reach the table service

What the client of the table service says when a request does not get through to the service.
-/

namespace AlertRelay
namespace Failure

/-- What the client of the table service says about a failure to reach it; names in braces stand
for details. -/
def serviceTemplates : List (String × String) :=
  [("NoCredentialsError", "Unable to locate credentials"),
    ("NoAuthTokenError", "Unable to locate authorization token"),
    ("NoRegionError", "You must specify a region."),
    ("PartialCredentialsError",
      "Partial credentials found in \x7bprovider\x7d, missing: \x7bcred_var\x7d"),
    ("CredentialRetrievalError",
      "Error when retrieving credentials from \x7bprovider\x7d: \x7berror_msg\x7d"),
    ("TokenRetrievalError",
      "Error when retrieving token from \x7bprovider\x7d: \x7berror_msg\x7d"),
    ("EndpointConnectionError", "Could not connect to the endpoint URL: \"\x7bendpoint_url\x7d\""),
    ("ConnectTimeoutError", "Connect timeout on endpoint URL: \"\x7bendpoint_url\x7d\""),
    ("ReadTimeoutError", "Read timeout on endpoint URL: \"\x7bendpoint_url\x7d\""),
    ("ConnectionClosedError",
      "Connection was closed before we received a valid response from endpoint URL: " ++
        "\"\x7bendpoint_url\x7d\"."),
    ("SSLError", "SSL validation failed for \x7bendpoint_url\x7d \x7berror\x7d"),
    ("ProxyConnectionError", "Failed to connect to proxy URL: \"\x7bproxy_url\x7d\""),
    ("HTTPClientError", "An HTTP Client raised an unhandled exception: \x7berror\x7d"),
    ("ConnectionError", "An HTTP Client failed to establish a connection: \x7berror\x7d"),
    ("ResponseStreamingError",
      "An error occurred while reading from response stream: \x7berror\x7d"),
    ("DataNotFoundError", "Unable to load data for: \x7bdata_path\x7d"),
    ("UnknownServiceError",
      "Unknown service: '\x7bservice_name\x7d'. Valid service names are: " ++
        "\x7bknown_service_names\x7d"),
    ("UnknownRegionError", "Unknown region: '\x7bregion_name\x7d'. \x7berror_msg\x7d"),
    ("UnknownEndpointError",
      "Unable to construct an endpoint for \x7bservice_name\x7d in region \x7bregion_name\x7d"),
    ("ServiceNotInRegionError",
      "Service \x7bservice_name\x7d not available in region \x7bregion_name\x7d"),
    ("UnknownSignatureVersionError", "Unknown Signature Version: \x7bsignature_version\x7d."),
    ("ProfileNotFound", "The config profile (\x7bprofile\x7d) could not be found"),
    ("ConfigNotFound", "The specified config file (\x7bpath\x7d) could not be found."),
    ("ConfigParseError", "Unable to parse config file: \x7bpath\x7d"),
    ("ParamValidationError", "Parameter validation failed:\n\x7breport\x7d"),
    ("ValidationError",
      "Invalid value ('\x7bvalue\x7d') for param \x7bparam\x7d of type \x7btype_name\x7d "),
    ("MissingParametersError",
      "The following required parameters are missing for \x7bobject_name\x7d: \x7bmissing\x7d"),
    ("WaiterError", "Waiter \x7bname\x7d failed: \x7breason\x7d"),
    ("WaiterConfigError", "Error processing waiter config: \x7berror_msg\x7d"),
    ("ApiVersionNotFoundError",
      "Unable to load data \x7bdata_path\x7d for: \x7bapi_version\x7d"),
    ("UnknownKeyError",
      "Unknown key '\x7bvalue\x7d' for param '\x7bparam\x7d'.  Must be one of: \x7bchoices\x7d"),
    ("RangeError",
      "Value out of range for param \x7bparam\x7d: \x7bmin_value\x7d <= \x7bvalue\x7d <= " ++
        "\x7bmax_value\x7d"),
    ("UnknownParameterError",
      "Unknown parameter '\x7bname\x7d' for operation \x7boperation\x7d.  Must be one of: " ++
        "\x7bchoices\x7d"),
    ("InvalidRegionError",
      "Provided region_name '\x7bregion_name\x7d' doesn't match a supported format."),
    ("UnseekableStreamError",
      "Need to rewind the stream \x7bstream_object\x7d, but stream is not seekable."),
    ("InvalidExpressionError",
      "Invalid expression \x7bexpression\x7d: Only dotted lookups are supported."),
    ("UnknownCredentialError", "Credential named \x7bname\x7d not found."),
    ("UnknownClientMethodError", "Client does not have method: \x7bmethod_name\x7d"),
    ("UnsupportedSignatureVersionError",
      "Signature version(s) are not supported: \x7bsignature_version\x7d"),
    ("RefreshWithMFAUnsupportedError", "Cannot refresh credentials: MFA token required."),
    ("MD5UnavailableError", "This system does not support MD5 generation."),
    ("MissingDependencyException", "Missing Dependency: \x7bmsg\x7d"),
    ("SSOTokenLoadError", "Error loading SSO Token: \x7berror_msg\x7d"),
    ("CapacityNotAvailableError", "Insufficient request capacity available."),
    ("InvalidProxiesConfigError",
      "Invalid configuration value(s) provided for proxies_config."),
    ("PaginationError", "Error during pagination: \x7bmessage\x7d"),
    ("OperationNotPageableError", "Operation cannot be paginated: \x7boperation_name\x7d"),
    ("ChecksumError",
      "Checksum \x7bchecksum_type\x7d failed, expected checksum \x7bexpected_checksum\x7d did " ++
        "not match calculated checksum \x7bactual_checksum\x7d."),
    ("MetadataRetrievalError", "Error retrieving metadata: \x7berror_msg\x7d"),
    ("InvalidConfigError", "\x7berror_msg\x7d"),
    ("IncompleteReadError",
      "\x7bactual_bytes\x7d read, but total bytes expected is \x7bexpected_bytes\x7d."),
    ("InvalidIMDSEndpointError",
      "Invalid endpoint EC2 Instance Metadata endpoint: \x7bendpoint\x7d"),
    ("UnknownFIPSEndpointError",
      "The provided FIPS pseudo-region \"\x7bregion_name\x7d\" is not known for the service " ++
        "\"\x7bservice_name\x7d\". A FIPS compliant endpoint cannot be constructed."),
    ("EndpointVariantError",
      "Unable to construct a modeled endpoint with the following variant(s) \x7btags\x7d: "),
    ("UnknownServiceStyle", "The service style (\x7bservice_style\x7d) is not understood."),
    ("InvalidHostLabelError",
      "Invalid host label to be bound to the hostname of the endpoint: \"\x7blabel\x7d\"."),
    ("InvalidRetryConfigurationError",
      "Cannot provide retry configuration for \"\x7bretry_config_option\x7d\". Valid retry " ++
        "configuration options are: \x7bvalid_options\x7d"),
    ("InvalidMaxRetryAttemptsError",
      "Value provided to \"max_attempts\": \x7bprovided_max_attempts\x7d must be an integer " ++
        "greater than or equal to \x7bmin_value\x7d."),
    ("InvalidRetryModeError",
      "Invalid value provided to \"mode\": \"\x7bprovided_retry_mode\x7d\" must be one of: " ++
        "\x7bvalid_modes\x7d"),
    ("StubResponseError",
      "Error getting response stub for operation \x7boperation_name\x7d: \x7breason\x7d"),
    ("StubAssertionError",
      "Error getting response stub for operation \x7boperation_name\x7d: \x7breason\x7d"),
    ("UnStubbedResponseError",
      "Error getting response stub for operation \x7boperation_name\x7d: \x7breason\x7d"),
    ("InfiniteLoopConfigError",
      "Infinite loop in credential configuration detected. Attempting to load from profile " ++
        "\x7bsource_profile\x7d which has already been visited. Visited profiles: " ++
        "\x7bvisited_profiles\x7d"),
    ("SSOError",
      "An unspecified error happened when resolving AWS credentials or an access token from " ++
        "SSO."),
    ("UnauthorizedSSOTokenError",
      "The SSO session associated with this profile has expired or is otherwise invalid. " ++
        "To refresh this SSO session run aws sso login with the corresponding profile."),
    ("InvalidDefaultsMode",
      "Client configured with invalid defaults mode: \x7bmode\x7d. Valid defaults modes " ++
        "include: \x7bvalid_modes\x7d."),
    ("AwsChunkedWrapperError", "\x7berror_msg\x7d"),
    ("FlexibleChecksumError", "\x7berror_msg\x7d"),
    ("InvalidEndpointConfigurationError", "Invalid endpoint configuration: \x7bmsg\x7d"),
    ("EndpointProviderError", "\x7bmsg\x7d"),
    ("EndpointResolutionError", "\x7bmsg\x7d"),
    ("AliasConflictParameterError",
      "Parameter '\x7boriginal\x7d' and its alias '\x7balias\x7d' were provided for operation " ++
        "\x7boperation\x7d.  Only one of them may be used."),
    ("InvalidDNSNameError",
      "Bucket named \x7bbucket_name\x7d is not DNS compatible. Virtual hosted-style " ++
        "addressing cannot be used. The addressing style can be configured by removing the " ++
        "addressing_style value or setting that value to 'path' or 'auto' in the AWS Config " ++
        "file or in the botocore.client.Config object."),
    ("InvalidEndpointDiscoveryConfigurationError",
      "Unsupported configuration value for endpoint_discovery_enabled. Expected one of " ++
        "(\"true\", \"false\", \"auto\") but got \x7bconfig_value\x7d."),
    ("InvalidIMDSEndpointModeError",
      "Invalid EC2 Instance Metadata endpoint mode: \x7bmode\x7d Valid endpoint modes " ++
        "(case-insensitive): \x7bvalid_modes\x7d."),
    ("InvalidS3AddressingStyleError",
      "S3 addressing style \x7bs3_addressing_style\x7d is invalid. Valid options are: 'auto', " ++
        "'virtual', and 'path'"),
    ("InvalidS3UsEast1RegionalEndpointConfigError",
      "S3 us-east-1 regional endpoint option \x7bs3_us_east_1_regional_endpoint_config\x7d is " ++
        "invalid. Valid options are: \"legacy\", \"regional\""),
    ("InvalidSTSRegionalEndpointsConfigError",
      "STS regional endpoints option \x7bsts_regional_endpoints_config\x7d is invalid. Valid " ++
        "options are: \"legacy\", \"regional\""),
    ("LoginError",
      "An unspecified error happened when resolving AWS credentials or refreshing a login " ++
        "session profile."),
    ("LoginRefreshRequired",
      "Your session has expired or credentials have changed. Please reauthenticate using 'aws " ++
        "login'."),
    ("LoginInsufficientPermissions",
      "Unable to create or refresh login credentials due to insufficient permissions. You may " ++
        "be missing permission for the 'signin:CreateOAuth2Token' action."),
    ("LoginAuthorizationCodeError",
      "Error loading or redeeming a login authorization code: \x7berror_msg\x7d "),
    ("LoginTokenLoadError", "Error loading login session token: \x7berror_msg\x7d "),
    ("UnknownTokenProviderError", "Token provider named \x7bname\x7d not found."),
    ("UnsupportedS3ArnError",
      "S3 ARN \x7barn\x7d provided to \"Bucket\" parameter is invalid. Only ARNs for S3 " ++
        "access-points are supported."),
    ("UnsupportedS3ControlArnError",
      "S3 ARN \"\x7barn\x7d\" provided is invalid for this operation. \x7bmsg\x7d"),
    ("UnsupportedOutpostResourceError",
      "S3 Outpost ARN resource \"\x7bresource_name\x7d\" provided to \"Bucket\" parameter is " ++
        "invalid. Only ARNs for S3 Outpost arns with an access-point sub-resource are " ++
        "supported."),
    ("UnsupportedS3ConfigurationError", "Unsupported configuration when using S3: \x7bmsg\x7d"),
    ("UnsupportedS3AccesspointConfigurationError",
      "Unsupported configuration when using S3 access-points: \x7bmsg\x7d"),
    ("UnsupportedS3ControlConfigurationError",
      "Unsupported configuration when using S3 Control: \x7bmsg\x7d"),
    ("UnsupportedServiceProtocolsError",
      "Botocore supports \x7bbotocore_supported_protocols\x7d, but service \x7bservice\x7d " ++
        "only supports \x7bservice_supported_protocols\x7d."),
    ("InvalidChecksumConfigError",
      "Unsupported configuration value for \x7bconfig_key\x7d. Expected one of " ++
        "\x7bvalid_options\x7d but got \x7bconfig_value\x7d."),
    ("UnknownEndpointResolutionBuiltInName", "Unknown builtin variable name: \x7bname\x7d")]

/-- Fill the details of a template in; `name?` collects the name in braces in reverse.  The details
have to be there. -/
def fill (details : List (String × Json)) (name? : Option (List Char)) :
    List Char → Except Failure (List Char)
  | [] => .ok []
  | c :: rest =>
      match name? with
      | none =>
          if c = '\x7b' then fill details (some []) rest
          else (fill details none rest).map (c :: ·)
      | some name =>
          if c = '\x7d' then
            let name := String.ofList name.reverse
            match details.lookup name with
            | some value => (fill details none rest).map (value.display.toList ++ ·)
            | none => .error (.shape (.memberMissing name))
          else fill details (some (c :: name)) rest

/-- The details that a failed wait has to have, and no others. -/
def waiterDetails : List String := ["name", "reason", "last_response"]

/-- Check the details of a failed wait. -/
def checkWaiter (details : List (String × Json)) : Except Failure Unit :=
  let callable := "WaiterError.__init__"
  let given := details.map Prod.fst
  match given.find? fun name => !waiterDetails.contains name with
  | some name => .error (.wrongArguments (.unexpected callable name))
  | none =>
      let missing := waiterDetails.filter fun name => !given.contains name
      if missing.isEmpty then .ok () else .error (.wrongArguments (.missing callable missing))

/-- A failure to reach the table service. -/
def unreachable (name : String) (details : List (String × Json)) : Except Failure Failure := do
  if name = "WaiterError" then checkWaiter details
  let template := (serviceTemplates.lookup name).getD "An unspecified error occurred"
  let text ← fill details none template.toList
  pure (.serviceTransport name (String.ofList text))

end Failure
end AlertRelay
